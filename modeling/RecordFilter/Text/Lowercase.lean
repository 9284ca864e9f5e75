/-
Lower case beyond ASCII. A single character has a lower case of one or two
characters, whatever stands around it; this is how field names are folded.
In a whole text the capital sigma also looks around: at the end of a word it
becomes the final small sigma; this is how text values are folded. For
texts of ASCII characters both skip the tables and change the same letters.
-/
import RecordFilter.Text.Cased
import RecordFilter.Text.Character
import RecordFilter.Text.Lowercase.Table

namespace RecordFilter.Text

/-- Whether a code point is one of the capitals of a range. -/
def CaseRange.has (range : CaseRange) (n : Nat) : Bool :=
  range.first ≤ n && n ≤ range.last && (n - range.first) % range.stride == 0

/-- How far the small letter of a code point is away; zero if the code point
is no listed capital. -/
def shiftOf : List CaseRange → Nat → Int
  | [], _ => 0
  | range :: rest, n =>
    if n < range.first then 0 else if range.has n then range.shift
    else shiftOf rest n

/-- The lower case of a character on its own. -/
def lowerChar (c : Char) : List Char :=
  if c = '\u0130' then ['i', '\u0307']
  else [Char.ofNat (c.toNat + shiftOf capitals c.toNat).toNat]

/-- The text with each character made small on its own. -/
def lowerEach (text : List Char) : List Char := text.flatMap lowerChar

/-- An ASCII character has the lower case that its letters have without any
table. -/
theorem lowerChar_of_ascii {c : Char} (h : c.toNat < 128) :
    lowerChar c = [c.toLower] := by
  have hne : c ≠ '\u0130' := by
    rintro rfl
    exact absurd h (by decide)
  have hall : ∀ n < 128,
      [Char.ofNat (n + shiftOf capitals n).toNat]
        = [(Char.ofNat n).toLower] := by
    decide
  rw [lowerChar, if_neg hne, hall c.toNat h, Char.ofNat_toNat]

theorem lowerEach_of_isAscii {text : List Char} (h : isAscii text = true) :
    lowerEach text = lowerAscii text := by
  induction text with
  | nil => rfl
  | cons c rest ih =>
    rw [isAscii, List.all_cons, Bool.and_eq_true, decide_eq_true_eq] at h
    have hrest : rest.flatMap lowerChar = rest.map Char.toLower := ih h.2
    rw [lowerEach, lowerAscii, List.flatMap_cons, lowerChar_of_ascii h.1,
      hrest]
    rfl

/-- Whether the first character that is not looked through has a case. -/
def meetsCased (text : List Char) : Bool :=
  match text.dropWhile isCaseIgnorable with
  | [] => false
  | c :: _ => isCased c

/-- The lower case of a capital sigma: final if a word ends here, that is
if it has a cased character before it and none behind it. -/
def lowerSigma (reversedBefore after : List Char) : Char :=
  if meetsCased reversedBefore && !meetsCased after then 'ς' else 'σ'

/-- The lower case of the rest of a text, given what stands before it, in
reverse. -/
def lowerFrom (reversedBefore : List Char) : List Char → List Char
  | [] => []
  | c :: after =>
    let small :=
      if c = 'Σ' then [lowerSigma reversedBefore after] else lowerChar c
    small ++ lowerFrom (c :: reversedBefore) after

/-- The lower case of a text. -/
def lower (text : List Char) : List Char := lowerFrom [] text

/-- The form in which texts are compared without regard to case. -/
def foldCase (text : List Char) : List Char :=
  if isAscii text then lowerAscii text else lower text

end RecordFilter.Text
