/-
The numbers of JSON. Digits alone are a whole number, as long as 64 bits
hold it; everything else is a double. The double is not the one nearest to
the numeral but the result of two roundings: the significand takes the
digits that fit into 64 bits and is rounded to a double, and then multiplied
with or divided by a power of ten, itself rounded. A number that leaves the
doubles on the way has no value.
-/
import RecordFilter.Binary64.Decimal
import RecordFilter.Number

namespace RecordFilter.Json

/-- The parts of a numeral. -/
structure Numeral where
  negative : Bool
  whole : List Char
  fraction : List Char
  exponent : Option Int

namespace Numeral

/-- A significand, and the power of ten it is to be multiplied with. -/
structure Scaled where
  significand : Nat
  exponent : Int

/-- The significand with one more digit, if 64 bits hold it. -/
def append? (significand : Nat) (digit : Char) : Option Nat :=
  let longer := RecordFilter.Numeral.value [digit] + 10 * significand
  if longer ≤ 18446744073709551615 then some longer else none

/-- Takes the digits before the point. From the first one that does not fit,
each counts as a power of ten instead. -/
def takeWhole (significand : Nat) : List Char → Scaled
  | [] => ⟨significand, 0⟩
  | digit :: rest =>
    match append? significand digit with
    | some longer => takeWhole longer rest
    | none => ⟨significand, rest.length + 1⟩

/-- Takes the digits behind the point, up to the first that does not fit. -/
def takeFraction (scaled : Scaled) : List Char → Scaled
  | [] => scaled
  | digit :: rest =>
    match append? scaled.significand digit with
    | some longer => takeFraction ⟨longer, scaled.exponent - 1⟩ rest
    | none => scaled

/-- The digits and the power of ten of a numeral. -/
def scaled (n : Numeral) : Scaled :=
  let taken := takeFraction (takeWhole 0 n.whole) n.fraction
  { taken with exponent := taken.exponent + n.exponent.getD 0 }

/-- The double nearest to a power of ten. -/
def powerOfTen? (k : Nat) : Option Magnitude := Precision.double.ofDecimal? 1 k

/-- Multiplies with a power of ten, or divides by one. Division by a power
beyond the doubles goes by steps of `10 ^ 308`, which soon reach zero. -/
def scale? : Nat → Magnitude → Int → Option Magnitude
  | 0, m, _ => some m
  | steps + 1, m, k =>
    if m = Magnitude.zero then some m
    else if 308 < k then none
    else if 0 ≤ k then (powerOfTen? k.toNat).bind m.mul?
    else if -308 ≤ k then (powerOfTen? (-k).toNat).bind m.div?
    else ((powerOfTen? 308).bind m.div?).bind fun m => scale? steps m (k + 308)

/-- The double of a numeral. -/
def toBinary64? (n : Numeral) : Option Binary64 :=
  (Magnitude.ofQuotient? n.scaled.significand 1).bind fun m =>
    (scale? 4 m n.scaled.exponent).map (Binary64.finite n.negative)

/-- The number of a numeral; one with a point or a power of ten is a double,
and so is the negative zero. -/
def toNumber? (n : Numeral) : Option Number :=
  let value := RecordFilter.Numeral.value n.whole
  if n.fraction ≠ [] ∨ n.exponent.isSome then n.toBinary64?.map .float
  else if n.negative then
    if 0 < value ∧ value ≤ 9223372036854775808 then
      some (.int (Int64.ofInt (-(value : Int))))
    else n.toBinary64?.map .float
  else if value ≤ 9223372036854775807 then some (.int (Int64.ofNat value))
  else if value ≤ 18446744073709551615 then some (.uint (UInt64.ofNat value))
  else n.toBinary64?.map .float

end Numeral

end RecordFilter.Json
