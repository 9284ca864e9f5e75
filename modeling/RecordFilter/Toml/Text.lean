/-
The lexical ground of TOML: blanks, line ends, comments and the four kinds
of strings. Literal strings stand between apostrophes and have no escapes,
basic strings stand between quotation marks; three of either make a string
that may go over several lines. Line ends in it stay as they are written,
except that one right behind the opening marks does not count, and that a
backslash at the end of a line takes the line end and all blanks after it
away.
-/
import RecordFilter.Reader
import RecordFilter.Text.Character

namespace RecordFilter.Toml

/-- Blanks within a line. -/
def isSpace (c : Char) : Bool := c = ' ' ∨ c = '\t'

/-- Control characters, which occur nowhere as themselves; the tab is
none. -/
def isControl (c : Char) : Bool :=
  (c.toNat < 0x20 && c ≠ '\t') || c.toNat = 0x7F

/-- Skips blanks within a line. -/
def spaces : Reader Unit := fun text => some ((), text.dropWhile isSpace)

/-- Takes the end of a line. -/
def lineEnd : Reader Unit
  | '\n' :: rest => some ((), rest)
  | '\r' :: '\n' :: rest => some ((), rest)
  | _ => none

/-- Skips a comment, if there is one. -/
def comment : Reader Unit
  | '#' :: rest =>
    let after := rest.dropWhile fun c => !isControl c
    match after with
    | [] | '\n' :: _ | '\r' :: '\n' :: _ => some ((), after)
    | _ => none
  | text => some ((), text)

/-- Skips blanks, comments and line ends, at most as many as given. -/
def blankLines : Nat → Reader Unit
  | 0 => pure ()
  | steps + 1 => do
    spaces
    comment
    match ← Reader.next? with
    | some '\n' | some '\r' =>
      lineEnd
      blankLines steps
    | _ => return

-- ============================================================ escapes

/-- The character with a hexadecimal number. -/
def numbered? (digits : List Char) : Option Char :=
  (Text.hexValue? digits).bind fun n =>
    if n < 0xD800 ∨ (0xDFFF < n ∧ n < 0x110000) then some (Char.ofNat n)
    else none

/-- The character that a letter behind a backslash stands for. -/
def escaped? : Char → Option Char
  | '"' => some '"'
  | '\\' => some '\\'
  | 'b' => some '\x08'
  | 'e' => some '\x1b'
  | 'f' => some '\x0c'
  | 'n' => some '\n'
  | 'r' => some '\r'
  | 't' => some '\t'
  | _ => none

/-- A character in front of the characters read after it. -/
def before (c : Option Char) (rest : Option (List Char × List Char)) :
    Option (List Char × List Char) :=
  match c, rest with
  | some c, some (chars, after) => some (c :: chars, after)
  | _, _ => none

-- ============================================================= strings

/-- The rest of a literal string. -/
def literalBody : List Char → Option (List Char × List Char)
  | [] => none
  | '\'' :: rest => some ([], rest)
  | c :: rest =>
    if isControl c then none else before (some c) (literalBody rest)

/-- The rest of a basic string. -/
def basicBody : List Char → Option (List Char × List Char)
  | [] => none
  | '"' :: rest => some ([], rest)
  | '\\' :: 'x' :: a :: b :: rest => before (numbered? [a, b]) (basicBody rest)
  | '\\' :: 'u' :: a :: b :: c :: d :: rest =>
    before (numbered? [a, b, c, d]) (basicBody rest)
  | '\\' :: 'U' :: a :: b :: c :: d :: e :: f :: g :: h :: rest =>
    before (numbered? [a, b, c, d, e, f, g, h]) (basicBody rest)
  | '\\' :: c :: rest => before (escaped? c) (basicBody rest)
  | c :: rest =>
    if isControl c ∨ c = '\\' then none else before (some c) (basicBody rest)

/-- The rest of a literal string of several lines. Up to two apostrophes
right before the closing ones belong to it. -/
def literalLines : List Char → Option (List Char × List Char)
  | [] => none
  | '\'' :: '\'' :: '\'' :: '\'' :: '\'' :: rest => some (['\'', '\''], rest)
  | '\'' :: '\'' :: '\'' :: '\'' :: rest => some (['\''], rest)
  | '\'' :: '\'' :: '\'' :: rest => some ([], rest)
  | '\r' :: '\n' :: rest =>
    before (some '\r') (before (some '\n') (literalLines rest))
  | c :: rest =>
    if isControl c ∧ c ≠ '\n' then none
    else before (some c) (literalLines rest)

/-- Whether nothing but blanks stands before the end of the line. -/
def endsLine (text : List Char) : Bool :=
  match text.dropWhile isSpace with
  | '\n' :: _ | '\r' :: '\n' :: _ => true
  | _ => false

/-- The rest of a basic string of several lines. Behind a backslash at the
end of a line, blanks and line ends are skipped. -/
def basicLines (skipping : Bool) : List Char → Option (List Char × List Char)
  | [] => none
  | '"' :: '"' :: '"' :: '"' :: '"' :: rest => some (['"', '"'], rest)
  | '"' :: '"' :: '"' :: '"' :: rest => some (['"'], rest)
  | '"' :: '"' :: '"' :: rest => some ([], rest)
  | '\r' :: '\n' :: rest =>
    if skipping then basicLines true rest
    else before (some '\r') (before (some '\n') (basicLines false rest))
  | '\\' :: 'x' :: a :: b :: rest =>
    before (numbered? [a, b]) (basicLines false rest)
  | '\\' :: 'u' :: a :: b :: c :: d :: rest =>
    before (numbered? [a, b, c, d]) (basicLines false rest)
  | '\\' :: 'U' :: a :: b :: c :: d :: e :: f :: g :: h :: rest =>
    before (numbered? [a, b, c, d, e, f, g, h]) (basicLines false rest)
  | '\\' :: c :: rest =>
    if endsLine (c :: rest) then basicLines true rest
    else before (escaped? c) (basicLines false rest)
  | c :: rest =>
    if skipping ∧ (isSpace c ∨ c = '\n') then basicLines true rest
    else if (isControl c ∧ c ≠ '\n') ∨ c = '\\' then none
    else before (some c) (basicLines false rest)

/-- The text without a line end in front. -/
def dropLineEnd : List Char → List Char
  | '\n' :: rest => rest
  | '\r' :: '\n' :: rest => rest
  | text => text

/-- A string within a line. -/
def lineString : Reader String
  | '"' :: rest =>
    (basicBody rest).map fun (chars, after) => (String.ofList chars, after)
  | '\'' :: rest =>
    (literalBody rest).map fun (chars, after) => (String.ofList chars, after)
  | _ => none

/-- A string of either extent. -/
def string : Reader String
  | '"' :: '"' :: '"' :: rest =>
    (basicLines false (dropLineEnd rest)).map fun (chars, after) =>
      (String.ofList chars, after)
  | '\'' :: '\'' :: '\'' :: rest =>
    (literalLines (dropLineEnd rest)).map fun (chars, after) =>
      (String.ofList chars, after)
  | text => lineString text

-- ================================================================ keys

/-- Characters of keys without quotation marks. -/
def isBareKey (c : Char) : Bool :=
  ('a' ≤ c ∧ c ≤ 'z') ∨ ('A' ≤ c ∧ c ≤ 'Z') ∨ c.isDigit ∨ c = '_' ∨ c = '-'

/-- One part of a key. -/
def keyPart : Reader String := do
  match ← Reader.next? with
  | some '"' | some '\'' => lineString
  | _ =>
    match ← Reader.run isBareKey with
    | [] => failure
    | chars => return String.ofList chars

/-- How many parts a key can have, and how many lists and tables in line can
lie within each other. Keys are counted apart from lists and tables. -/
def depthLimit : Nat := 80

/-- Parts between dots, at most as many as given, with the blanks behind
them. -/
def keyParts : Nat → Reader (List String)
  | 0 => failure
  | room + 1 => do
    let part ← keyPart
    spaces
    if ← Reader.optionally '.' then
      spaces
      return part :: (← keyParts room)
    return [part]

/-- A key, with the blanks behind it. -/
def key : Reader (List String) := keyParts depthLimit

end RecordFilter.Toml
