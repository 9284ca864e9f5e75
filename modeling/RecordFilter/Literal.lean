/-
Literals of comparisons as they were written. They stay texts until they
are compiled; how one is rendered depends on the kind of its field.
-/
import RecordFilter.Text.Character
import RecordFilter.Text.Quoted

namespace RecordFilter

/-- The right-hand side of a comparison. -/
inductive Literal where
  | null
  | bare (raw : String)
  | quoted (raw : String)
  | dateTime (raw : String)
  deriving DecidableEq, Repr

namespace Literal

/-- The word for null. -/
def nullKeyword : String := "null"

/-- Whether a text is the word for null, in any case. -/
def isNullKeyword (raw : String) : Bool :=
  Text.sameIgnoringAsciiCase raw nullKeyword

/-- The text of a literal; null has none. -/
def raw? : Literal → Option String
  | null => none
  | bare raw | quoted raw | dateTime raw => some raw

/-- The rendered literal, as characters. -/
def text : Literal → List Char
  | null => nullKeyword.toList
  | bare raw => raw.toList
  | quoted raw => Text.quote raw.toList
  | dateTime raw => "datetime(".toList ++ Text.quote raw.toList ++ [')']

/-- The rendered literal. -/
def render (literal : Literal) : String := String.ofList literal.text

end Literal

end RecordFilter
