/-
Texts between quotation marks. Two spellings are written: the plain one of
rendered expressions, where a backslash stands before every quotation mark
and backslash and nothing else is changed, and the detailed one for
inspection, which also spells out what would not show. The plain spelling
can be read back: the character after a backslash stands for itself, and
the first quotation mark without one ends the text.
-/
import RecordFilter.Text.Shown

namespace RecordFilter.Text

/-- A text with a backslash before each quotation mark and backslash. -/
def escape : List Char → List Char
  | [] => []
  | c :: rest =>
    if c = '"' ∨ c = '\\' then '\\' :: c :: escape rest else c :: escape rest

/-- A text between quotation marks. -/
def quote (text : List Char) : List Char := '"' :: escape text ++ ['"']

/-- Reads a text behind its opening quotation mark, and hands on what stands
behind the closing one. -/
def unquote? : List Char → Option (List Char × List Char)
  | [] => none
  | '"' :: after => some ([], after)
  | '\\' :: c :: rest =>
    (unquote? rest).map fun (text, after) => (c :: text, after)
  | c :: rest => (unquote? rest).map fun (text, after) => (c :: text, after)

/-- The hexadecimal digits of a code point, as in `\u{7f}`. -/
def codePoint (c : Char) : List Char :=
  '\\' :: 'u' :: '\x7b' :: Nat.toDigits 16 c.toNat ++ ['\x7d']

/-- A character as it stands in a text written for inspection. -/
def spellOut (c : Char) : List Char :=
  if c = '\x00' then ['\\', '0']
  else if c = '\t' then ['\\', 't']
  else if c = '\n' then ['\\', 'n']
  else if c = '\r' then ['\\', 'r']
  else if c = '"' ∨ c = '\\' then ['\\', c]
  else if isShown c then [c]
  else codePoint c

/-- A text between quotation marks with nothing left invisible. -/
def inspect (text : List Char) : List Char :=
  '"' :: text.flatMap spellOut ++ ['"']

end RecordFilter.Text
