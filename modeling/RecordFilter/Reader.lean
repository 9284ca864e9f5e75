/-
Readers: functions that take something off the front of a text and hand on
the rest, or fail. The grammars of dates, JSON and TOML are written with
these few.
-/
import RecordFilter.Numeral
import RecordFilter.Text.Character

namespace RecordFilter

/-- Takes what it reads off the front of a text, or fails. -/
abbrev Reader := StateT (List Char) Option

namespace Reader

/-- Takes one given character. -/
def literal (c : Char) : Reader Unit
  | [] => none
  | d :: rest => if d = c then some ((), rest) else none

/-- Takes one of the given characters. -/
def oneOf (cs : List Char) : Reader Char
  | [] => none
  | d :: rest => if d ∈ cs then some (d, rest) else none

/-- Takes the given characters, all of them. -/
def word (cs : List Char) : Reader Unit := fun text =>
  if cs.isPrefixOf text then some ((), text.drop cs.length) else none

/-- Takes the characters in front with a property, of which there may be
none. -/
def run (p : Char → Bool) : Reader (List Char) := fun text =>
  some (text.takeWhile p, text.dropWhile p)

/-- Takes one given character if it is next. -/
def optionally (c : Char) : Reader Bool
  | [] => some (false, [])
  | d :: rest => if d = c then some (true, rest) else some (false, d :: rest)

/-- The next character, which stays where it is. -/
def next? : Reader (Option Char) := fun text => some (text.head?, text)

/-- Takes all blanks in front, of which there may be none. -/
def blanks : Reader Unit := fun text => some ((), Text.dropBlanks text)

/-- Takes at least `least` digits, and as many as there are up to `most`. -/
def digits (least most : Nat) : Reader Nat := fun text =>
  let run := (text.take most).takeWhile Char.isDigit
  if run.length < least then none
  else some (Numeral.value run, text.drop run.length)

/-- Takes all digits in front, at least one. -/
def allDigits : Reader (List Char) := fun text =>
  let run := text.takeWhile Char.isDigit
  if run = [] then none else some (run, text.dropWhile Char.isDigit)

/-- Whether the whole text is taken, and as what. -/
def whole {α : Type} (reader : Reader α) (text : List Char) : Option α :=
  match reader text with
  | some (a, []) => some a
  | _ => none

end Reader

end RecordFilter
