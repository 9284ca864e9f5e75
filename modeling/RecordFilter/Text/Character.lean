/-
Characters, and what texts are read and compared by. Sets of characters are
ranges of code points; the blanks are one such set. Keywords, boolean
literals and variant names are compared up to the case of ASCII letters:
`NULL` is `null`, but no character outside ASCII has another spelling.
Hexadecimal digits are read in either case.
-/
namespace RecordFilter.Text

-- ================================================================= ranges

/-- Disjoint ranges of code points, ends included, in ascending order, so
that a search stops at the first one that lies beyond the character. -/
abbrev CodeRanges := List (Nat × Nat)

/-- Whether a code point lies in one of the ranges. -/
def CodeRanges.has : CodeRanges → Nat → Bool
  | [], _ => false
  | (first, last) :: rest, n => first ≤ n && (n ≤ last || has rest n)

/-- Whether a character lies in one of the ranges. -/
def CodeRanges.contains (ranges : CodeRanges) (c : Char) : Bool :=
  ranges.has c.toNat

-- ================================================================= blanks

/-- Whether a character has the Unicode property White_Space. Literals are
trimmed by it, dates skip it, and no delimiter may have it. -/
def isBlank (c : Char) : Bool :=
  let n := c.toNat
  (0x9 ≤ n && n ≤ 0xD) || n == 0x20 || n == 0x85 || n == 0xA0 || n == 0x1680
    || (0x2000 ≤ n && n ≤ 0x200A) || n == 0x2028 || n == 0x2029 || n == 0x202F
    || n == 0x205F || n == 0x3000

/-- The text without the blanks in front. -/
def dropBlanks (text : List Char) : List Char := text.dropWhile isBlank

/-- The text without the blanks at either end. -/
def trim (text : List Char) : List Char :=
  (dropBlanks (dropBlanks text).reverse).reverse

-- ================================================================== ASCII

/-- Whether every character of a text is an ASCII character. -/
def isAscii (s : List Char) : Bool := s.all fun c => c.toNat < 128

/-- The text with its ASCII capitals made small; `Char.toLower` changes
those and nothing else. -/
def lowerAscii (s : List Char) : List Char := s.map Char.toLower

/-- Equality up to the case of ASCII letters. -/
def sameIgnoringAsciiCase (a b : String) : Bool :=
  lowerAscii a.toList == lowerAscii b.toList

theorem sameIgnoringAsciiCase_iff {a b : String} :
    sameIgnoringAsciiCase a b = true
      ↔ lowerAscii a.toList = lowerAscii b.toList := by
  simp [sameIgnoringAsciiCase]

-- =================================================== hexadecimal numerals

/-- The value of a hexadecimal digit. -/
def hexDigit? (c : Char) : Option Nat :=
  if '0' ≤ c ∧ c ≤ '9' then some (c.toNat - '0'.toNat)
  else if 'A' ≤ c ∧ c ≤ 'F' then some (c.toNat - 'A'.toNat + 10)
  else if 'a' ≤ c ∧ c ≤ 'f' then some (c.toNat - 'a'.toNat + 10)
  else none

/-- The value of a run of hexadecimal digits. -/
def hexValue? (text : List Char) : Option Nat :=
  (text.mapM hexDigit?).map fun digits =>
    digits.foldl (fun n digit => 16 * n + digit) 0

end RecordFilter.Text
