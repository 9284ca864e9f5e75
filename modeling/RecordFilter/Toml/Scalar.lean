/-
The scalars of TOML that are not strings. A scalar is one word, and the
whole word must be a truth value, a date or a number. A word goes on to the
next character that ends a value, so that blanks and quotation marks within
it belong to it; hardly any word can use them, but a date may have a blank
between its day and its time. Of a date only its form is checked, since
nothing here is described by one.
-/
import RecordFilter.Calendar.Date
import RecordFilter.Reader
import RecordFilter.Toml.Number
import RecordFilter.Toml.Text

namespace RecordFilter.Toml

-- =============================================================== dates

/-- A day. -/
def day : Reader Unit := do
  let year ← Reader.digits 4 4
  Reader.literal '-'
  let month ← Reader.digits 2 2
  Reader.literal '-'
  let day ← Reader.digits 2 2
  let _ ← (Calendar.Date.of? year month day : Option _)

/-- A time of day; seconds and their fraction may be left out. -/
def timeOfDay : Reader Unit := do
  let hour ← Reader.digits 2 2
  Reader.literal ':'
  let minute ← Reader.digits 2 2
  guard (hour < 24 ∧ minute < 60)
  if ← Reader.optionally ':' then
    let second ← Reader.digits 2 2
    guard (second ≤ 60)
    if ← Reader.optionally '.' then
      let _ ← Reader.allDigits

/-- The offset from universal time. -/
def offset : Reader Unit := do
  match ← Reader.oneOf ['Z', 'z', '+', '-'] with
  | 'Z' | 'z' => return
  | _ =>
    let hours ← Reader.digits 2 2
    Reader.literal ':'
    let minutes ← Reader.digits 2 2
    guard (hours < 24 ∧ minutes < 60)

/-- A day and a time of day. -/
def dayAndTime : Reader Unit := do
  day
  let _ ← Reader.oneOf ['T', 't', ' ']
  timeOfDay

/-- The forms of dates. -/
def dates : List (Reader Unit) :=
  [day, timeOfDay, dayAndTime, do dayAndTime; offset]

/-- Whether a word is a date. -/
def isDate (word : List Char) : Bool :=
  dates.any fun form => (form.whole word).isSome

-- ============================================================= scalars

/-- What a word denotes. -/
def wordData? (word : List Char) : Option Data :=
  if word = "true".toList then some (.bool true)
  else if word = "false".toList then some (.bool false)
  else if isDate word then some .date
  else number? word

/-- The characters that end a value. -/
def endsValue (c : Char) : Bool :=
  c == '=' || c == ',' || c == '[' || c == ']' || c == '\x7b' || c == '\x7d'
    || c == '#' || c == '\r' || c == '\n'

/-- Takes a word and the blanks behind it. -/
def word : Reader (List Char) := do
  let text ← Reader.run fun c => !endsValue c
  return (text.reverse.dropWhile isSpace).reverse

/-- A scalar that is no string. -/
def scalar : Reader Data := do
  let word ← word
  (wordData? word : Option Data)

end RecordFilter.Toml
