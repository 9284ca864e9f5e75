/-
Decimal numerals. Digits are the ten ASCII digits; a signed numeral has at
most one sign in front, and leading zeros change nothing. The fixed-width
readers refuse a numeral whose value does not fit.
-/
namespace RecordFilter.Numeral

/-- The value of a run of decimal digits. -/
def value (digits : List Char) : Nat := Nat.ofDigitChars 10 digits 0

/-- The decimal digits of a number, without leading zeros. -/
def digits (n : Nat) : List Char := Nat.toDigits 10 n

theorem value_digits (n : Nat) : value (digits n) = n :=
  Nat.ofDigitChars_ten_toDigits

theorem isDigit_of_mem_digits {n : Nat} {c : Char} (h : c ∈ digits n) :
    c.isDigit = true :=
  Nat.isDigit_of_mem_toDigits (by decide) (by decide) h

theorem digits_ne_nil (n : Nat) : digits n ≠ [] := Nat.toDigits_ne_nil

/-- The digits with zeros in front, to at least the given width. -/
def padded (width n : Nat) : List Char :=
  List.replicate (width - (digits n).length) '0' ++ digits n

/-- A number with a minus sign if it is negative. -/
def signed (n : Int) : List Char :=
  if n < 0 then '-' :: digits n.natAbs else digits n.natAbs

/-- The value of a text that consists of one or more digits. -/
def natural? (text : List Char) : Option Nat :=
  if text ≠ [] ∧ text.all Char.isDigit then some (value text) else none

/-- The value of one or more digits after an optional sign. -/
def integer? : List Char → Option Int
  | '+' :: text => (natural? text).map Int.ofNat
  | '-' :: text => (natural? text).map fun n => -(n : Int)
  | text => (natural? text).map Int.ofNat

/-- The signed numerals of 64 bits. -/
def int64? (text : List Char) : Option Int64 :=
  (integer? text).bind fun n =>
    if -9223372036854775808 ≤ n ∧ n ≤ 9223372036854775807 then
      some (Int64.ofInt n)
    else none

/-- The unsigned numerals of 64 bits, which take no minus sign, not even
on zero. -/
def uint64? (text : List Char) : Option UInt64 :=
  match text with
  | '-' :: _ => none
  | _ =>
    (integer? text).bind fun n =>
      if n ≤ 18446744073709551615 then some (UInt64.ofNat n.toNat) else none

end RecordFilter.Numeral
