/-
Numbers as they stand in records and literals: signed and unsigned whole
numbers of 64 bits, and doubles. A numeral is read as the first of these
that holds it. Whole numbers compare exactly; a comparison with a double
takes both sides as doubles.
-/
import RecordFilter.Binary64.Decimal

namespace RecordFilter

/-- A numeric value or literal. -/
inductive Number where
  | int (n : Int64)
  | uint (n : UInt64)
  | float (x : Binary64)
  deriving DecidableEq

namespace Number

/-- Reads a numeral. Infinite values are not numbers to compare with, even
where a numeral is too large for a double. -/
def read? (text : List Char) : Option Number :=
  ((Numeral.int64? text).map int).or <|
    ((Numeral.uint64? text).map uint).or <|
      ((Binary64.read? .double text).filter Binary64.isFinite).map float

/-- The whole number, unless the value is a double. -/
def toInt? : Number → Option Int
  | int n => some n.toInt
  | uint n => some n.toNat
  | float _ => none

/-- The number as a double, rounded if need be. -/
def toBinary64 : Number → Binary64
  | int n => Binary64.ofInt n.toInt
  | uint n => Binary64.ofInt n.toNat
  | float x => x

/-- The order of two numbers. -/
def compare? (a b : Number) : Option Ordering :=
  match a.toInt?, b.toInt? with
  | some x, some y => some (compare x y)
  | _, _ => a.toBinary64.compare? b.toBinary64

/-- Whether two numbers compare as equal. -/
def same (a b : Number) : Bool := a.compare? b == some .eq

end Number

end RecordFilter
