/-
Comparisons of text values: equality and the three ways in which one text
can lie inside another, with or without regard to case. Without it, both
sides are folded as whole texts first. Values that are not texts have no
answer.
-/
import RecordFilter.Text.Lowercase
import RecordFilter.Value

namespace RecordFilter

/-- Whether case counts. -/
inductive CaseMode where
  | sensitive
  | insensitive
  deriving DecidableEq, Repr

/-- A text in the form in which a mode compares it. -/
def CaseMode.fold : CaseMode → List Char → List Char
  | sensitive, text => text
  | insensitive, text => Text.foldCase text

namespace Text

/-- Whether a text occurs inside another. -/
def occursIn (needle : List Char) : List Char → Bool
  | [] => needle.isEmpty
  | c :: text => needle.isPrefixOf (c :: text) || occursIn needle text

/-- The search finds a text exactly if it is part of the other. -/
theorem occursIn_iff (needle text : List Char) :
    occursIn needle text = true ↔ needle <:+: text := by
  induction text with
  | nil => simp [occursIn]
  | cons c text ih => simp [occursIn, ih, List.infix_cons_iff]

end Text

namespace Value

/-- Applies a relation of texts to a text value and another text. -/
def relateText? (mode : CaseMode) (relation : List Char → List Char → Bool)
    (v : Value) (other : String) : Option Bool :=
  v.text?.map fun s => relation (mode.fold s.toList) (mode.fold other.toList)

/-- Whether a text value equals a text. -/
def textEquals? (mode : CaseMode) : Value → String → Option Bool :=
  relateText? mode fun text other => text == other

/-- Whether a text value contains a text. -/
def textContains? (mode : CaseMode) : Value → String → Option Bool :=
  relateText? mode fun text other => Text.occursIn other text

/-- Whether a text value starts with a text. -/
def textStartsWith? (mode : CaseMode) : Value → String → Option Bool :=
  relateText? mode fun text other => other.isPrefixOf text

/-- Whether a text value ends with a text. -/
def textEndsWith? (mode : CaseMode) : Value → String → Option Bool :=
  relateText? mode fun text other => other.isSuffixOf text

-- ======================================================= of text values

section

variable {mode : CaseMode} {s other : String}

/-- Texts are equal if they fold to the same. -/
theorem textEquals?_text_iff :
    (text s).textEquals? mode other = some true
      ↔ mode.fold s.toList = mode.fold other.toList := by
  simp [textEquals?, relateText?, text?]

/-- A text contains another if what they fold to does. -/
theorem textContains?_text_iff :
    (text s).textContains? mode other = some true
      ↔ mode.fold other.toList <:+: mode.fold s.toList := by
  simp [textContains?, relateText?, text?, Text.occursIn_iff]

/-- A text starts with another if what they fold to does. -/
theorem textStartsWith?_text_iff :
    (text s).textStartsWith? mode other = some true
      ↔ mode.fold other.toList <+: mode.fold s.toList := by
  simp [textStartsWith?, relateText?, text?]

/-- A text ends in another if what they fold to does. -/
theorem textEndsWith?_text_iff :
    (text s).textEndsWith? mode other = some true
      ↔ mode.fold other.toList <:+ mode.fold s.toList := by
  simp [textEndsWith?, relateText?, text?]

end

end Value

end RecordFilter
