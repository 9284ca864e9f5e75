/-
The text of a double. Its digits are the fewest that read back as the same
number, and among those the nearest to it, the upper one of two equally
near. Two layouts share these digits: the plain one never uses a power of
ten and writes whole numbers without a point, the detailed one marks every
number as a fraction and turns to powers of ten for very large and very
small numbers.
-/
import RecordFilter.Binary64
import RecordFilter.Numeral

namespace RecordFilter.Magnitude

/-- The point of the decimal grid `10 ^ k` to be written for a magnitude:
one of its two neighbours on the grid that still round to it. All numbers
are scaled to whole ones; `unit` is one step of the grid. -/
def gridPoint? (m : Magnitude) (k : Int) : Option Nat :=
  let scale := 10 ^ (-k).toNat
  let unit := 2 ^ 1076 * 10 ^ k.toNat
  let value := 4 * m.quanta * scale
  let above := 2 ^ (m.exponent + 1) * scale
  let below :=
    if m.significand = 2 ^ 52 ∧ 0 < m.exponent then 2 ^ m.exponent * scale
    else above
  let roundsBack (point : Nat) : Bool :=
    if m.significand % 2 = 0 then
      value - below ≤ point * unit ∧ point * unit ≤ value + above
    else value - below < point * unit ∧ point * unit < value + above
  let lower := value / unit
  match roundsBack lower, roundsBack (lower + 1) with
  | true, true => some (if 2 * (value % unit) < unit then lower else lower + 1)
  | true, false => some lower
  | false, true => some (lower + 1)
  | false, false => none

/-- The number of digits before the point, negative if zeros follow it. -/
def decimalSize (m : Magnitude) : Int :=
  ((Numeral.digits (m.quanta * 10 ^ 400 / 2 ^ 1074)).length : Int) - 400

/-- The shortest digits that read back, as a whole number and a power of
ten: the coarsest grid with a point to write is taken. Seventeen digits
always suffice. -/
def shortest (m : Magnitude) : Nat × Int :=
  let size := m.decimalSize
  ((List.range 18).findSome? fun (n : Nat) =>
    let k : Int := size - n
    (m.gridPoint? k).map (·, k)).getD (0, 0)

/-- A whole number times a power of ten, written without one: digits before
the point, and digits behind it. -/
def positional (digits : Nat) (k : Int) : List Char × List Char :=
  let text := Numeral.digits digits
  if 0 ≤ k then (text ++ List.replicate k.toNat '0', [])
  else
    let places := (-k).toNat
    let text := List.replicate (places + 1 - text.length) '0' ++ text
    text.splitAt (text.length - places)

/-- The digits before and behind the point. -/
def parts (m : Magnitude) : List Char × List Char :=
  if m.significand = 0 then (['0'], [])
  else
    let (digits, k) := m.shortest
    positional digits k

/-- One digit before the point, the others behind it, and the power of
ten. -/
def scientific (m : Magnitude) : List Char :=
  let (digits, k) := m.shortest
  match Numeral.digits digits with
  | first :: [] => first :: 'e' :: Numeral.signed k
  | first :: rest =>
    first :: '.' :: rest ++ 'e' :: Numeral.signed (k + rest.length)
  | [] => []

end RecordFilter.Magnitude

namespace RecordFilter.Binary64

/-- A magnitude's text with its sign. -/
def withSign (negative : Bool) (text : List Char) : List Char :=
  if negative then '-' :: text else text

/-- The plain text: digits alone, a point only before a fraction. -/
def plain : Binary64 → List Char
  | finite negative m =>
    withSign negative <|
      match m.parts with
      | (whole, []) => whole
      | (whole, fraction) => whole ++ '.' :: fraction
  | infinite negative => withSign negative "inf".toList
  | nan => "NaN".toList

/-- The detailed text: from `10 ^ 16` on and below `10 ^ -4` with a power of
ten, in between always with a point. -/
def detailed : Binary64 → List Char
  | finite negative m =>
    withSign negative <|
      if 10 ^ 16 * 2 ^ 1074 ≤ m.quanta
        ∨ (0 < m.quanta ∧ m.quanta * 10 ^ 4 < 2 ^ 1074) then
        m.scientific
      else
        match m.parts with
        | (whole, []) => whole ++ ".0".toList
        | (whole, fraction) => whole ++ '.' :: fraction
  | infinite negative => withSign negative "inf".toList
  | nan => "NaN".toList

end RecordFilter.Binary64
