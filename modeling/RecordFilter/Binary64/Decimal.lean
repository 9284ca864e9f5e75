/-
Doubles written in decimal. A numeral has an optional sign, digits with at
most one point and at least one digit, and an optional power of ten; the
number read is the double nearest to what the numeral denotes. Infinities
and the value that is no number are written as words, in any case.
-/
import RecordFilter.Binary64
import RecordFilter.Numeral
import RecordFilter.Text.Character

namespace RecordFilter

/-- What a decimal numeral denotes: a signed whole number times a power of
ten. The sign is kept apart because zero has one too. -/
structure Decimal where
  negative : Bool
  digits : Nat
  exponent : Int
  deriving DecidableEq, Repr

namespace Decimal

/-- An optional sign in front of a text, and the text behind it. -/
def takeSign : List Char → Bool × List Char
  | '-' :: text => (true, text)
  | '+' :: text => (false, text)
  | text => (false, text)

/-- The power of ten at the end of a numeral: none is the power zero. -/
def exponent? : List Char → Option Int
  | [] => some 0
  | c :: text =>
    if c = 'e' ∨ c = 'E' then
      let (negative, digits) := takeSign text
      (Numeral.natural? digits).map fun n => if negative then -(n : Int) else n
    else none

/-- The numeral without its sign: digits, perhaps a point and digits, and
perhaps a power of ten. -/
def unsigned? (negative : Bool) (text : List Char) : Option Decimal :=
  let whole := text.takeWhile Char.isDigit
  let (fraction, rest) :=
    match text.dropWhile Char.isDigit with
    | '.' :: rest => (rest.takeWhile Char.isDigit, rest.dropWhile Char.isDigit)
    | rest => ([], rest)
  if whole = [] ∧ fraction = [] then none
  else
    (exponent? rest).map fun e =>
      ⟨negative, Numeral.value (whole ++ fraction), e - fraction.length⟩

/-- The decimal a numeral denotes. -/
def read? (text : List Char) : Option Decimal :=
  let (negative, rest) := takeSign text
  unsigned? negative rest

end Decimal

/-- A precision to round to: binary digits, the binary exponent of the
quantum, and the largest exponent a number may have in quanta. -/
structure Precision where
  digits : Nat
  quantum : Nat
  largestExponent : Nat

namespace Precision

/-- Numbers of 32 bits. -/
def single : Precision := ⟨24, 149, 253⟩

/-- Numbers of 64 bits. -/
def double : Precision := ⟨53, 1074, 2045⟩

/-- The magnitude nearest to a quotient among those of this precision, none
if it is beyond the largest. Singles are doubles, so that widening the
rounded number loses nothing. -/
def round? (p : Precision) (num den : Nat) : Option Magnitude :=
  let (significand, exponent) :=
    roundToDigits p.digits (num * 2 ^ p.quantum) den
  if exponent ≤ p.largestExponent then
    Magnitude.ofQuotient? (significand * 2 ^ exponent) (2 ^ p.quantum)
  else none

/-- The magnitude nearest to a whole number times a power of ten. Powers
that lead far out of range on either side are not computed. -/
def ofDecimal? (p : Precision) (digits : Nat) (exponent : Int) :
    Option Magnitude :=
  if digits = 0 then some Magnitude.zero
  else if 400 < exponent then none
  else if exponent + (Numeral.digits digits).length < -400 then
    some Magnitude.zero
  else p.round? (digits * 10 ^ exponent.toNat) (10 ^ (-exponent).toNat)

end Precision

namespace Binary64

/-- The number of a precision that is nearest to a decimal. -/
def ofDecimal (p : Precision) (d : Decimal) : Binary64 :=
  ofMagnitude? d.negative (p.ofDecimal? d.digits d.exponent)

/-- The infinities and the value that is no number, by their names. -/
def named? (text : List Char) : Option Binary64 :=
  let (negative, name) := Decimal.takeSign text
  let name := String.ofList (Text.lowerAscii name)
  if name = "inf" ∨ name = "infinity" then some (infinite negative)
  else if name = "nan" then some nan
  else none

/-- Reads a numeral, or a name of a value that no numeral denotes. -/
def read? (p : Precision) (text : List Char) : Option Binary64 :=
  (named? text).or ((Decimal.read? text).map (ofDecimal p))

end Binary64

end RecordFilter
