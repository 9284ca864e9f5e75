/-
JSON texts, read strictly: one value with white space around it and nothing
else. Values nest to any depth here; a consumer that has a limit counts for
itself. An escape that is half of a surrogate pair, and a number that is too
large, are grammatical but unreadable.
-/
import RecordFilter.Data
import RecordFilter.Json.Number
import RecordFilter.Reader
import RecordFilter.Text.Character

namespace RecordFilter.Json

/-- Skips white space. -/
def spaces : Reader Unit := fun text =>
  some ((), text.dropWhile fun c => c = ' ' ∨ c = '\n' ∨ c = '\t' ∨ c = '\r')

-- ============================================================ numbers

/-- The digits before the point: no zero in front of others. -/
def whole : Reader (List Char) := do
  match ← Reader.allDigits with
  | '0' :: _ :: _ => failure
  | digits => return digits

/-- The digits behind the point, if there is one. -/
def fraction : Reader (List Char) := do
  if ← Reader.optionally '.' then Reader.allDigits else return []

/-- The power of ten, if there is one. -/
def exponent : Reader (Option Int) := do
  match ← Reader.next? with
  | some 'e' | some 'E' =>
    let _ ← Reader.oneOf ['e', 'E']
    let negative ← Reader.optionally '-'
    unless negative do let _ ← Reader.optionally '+'
    let value : Int := RecordFilter.Numeral.value (← Reader.allDigits)
    return some (if negative then -value else value)
  | _ => return none

/-- A number. -/
def number : Reader Data := do
  let negative ← Reader.optionally '-'
  let whole ← whole
  let fraction ← fraction
  let exponent ← exponent
  let numeral : Numeral := ⟨negative, whole, fraction, exponent⟩
  return numeral.toNumber?.elim .unreadable .number

-- ============================================================ strings

/-- The character a letter behind a backslash stands for. -/
def escaped? : Char → Option Char
  | '"' => some '"'
  | '\\' => some '\\'
  | '/' => some '/'
  | 'b' => some '\x08'
  | 'f' => some '\x0c'
  | 'n' => some '\n'
  | 'r' => some '\r'
  | 't' => some '\t'
  | _ => none

/-- What one place of a string literal denotes: a character, or half of a
surrogate pair. -/
inductive Piece where
  | char (c : Char)
  | half (unit : Nat)

/-- What a number of 16 bits denotes. -/
def Piece.ofUnit (u : Nat) : Piece :=
  if 0xD800 ≤ u ∧ u ≤ 0xDFFF then .half u else .char (Char.ofNat u)

/-- The pieces of a string literal up to its closing quotation mark, which
is taken too. -/
def pieces : List Char → Option (List Piece × List Char)
  | [] => none
  | '"' :: rest => some ([], rest)
  | '\\' :: 'u' :: a :: b :: c :: d :: rest =>
    match Text.hexValue? [a, b, c, d], pieces rest with
    | some u, some (more, after) => some (Piece.ofUnit u :: more, after)
    | _, _ => none
  | '\\' :: c :: rest =>
    match escaped? c, pieces rest with
    | some c, some (more, after) => some (.char c :: more, after)
    | _, _ => none
  | c :: rest =>
    if c.toNat < 0x20 ∨ c = '\\' then none
    else
      match pieces rest with
      | some (more, after) => some (.char c :: more, after)
      | none => none

/-- The characters of a string, with the halves of pairs put together; none
if a half stands alone. -/
def pair : List Piece → Option (List Char)
  | [] => some []
  | .char c :: rest => (pair rest).map (c :: ·)
  | .half u :: .half v :: rest =>
    if u < 0xDC00 ∧ 0xDC00 ≤ v then
      (pair rest).map
        (Char.ofNat (0x10000 + (u - 0xD800) * 0x400 + (v - 0xDC00)) :: ·)
    else none
  | .half _ :: _ => none

/-- A string: its text, or none if it has none. -/
def string : Reader (Option String) := do
  Reader.literal '"'
  let pieces ← (pieces : Reader _)
  return (pair pieces).map String.ofList

-- ============================================================= values

/-- The table with these entries, unless a key is unreadable. -/
def tableOf (entries : List (Option String × Data)) : Data :=
  match entries.mapM fun (key, value) => key.map (·, value) with
  | some entries => .table entries
  | none => .unreadable

mutual

/-- A value. The count bounds the steps; a text's length is always
enough. -/
def value : Nat → Reader Data
  | 0 => failure
  | steps + 1 => do
    match ← Reader.next? with
    | some 'n' => Reader.word "null".toList; return .null
    | some 't' => Reader.word "true".toList; return .bool true
    | some 'f' => Reader.word "false".toList; return .bool false
    | some '"' => return (← string).elim .unreadable .text
    | some '[' =>
      Reader.literal '['
      spaces
      if ← Reader.optionally ']' then return .list []
      return .list (← items steps)
    | some '\x7b' =>
      Reader.literal '\x7b'
      spaces
      if ← Reader.optionally '\x7d' then return .table []
      return tableOf (← entries steps)
    | _ => number

/-- The items of a list, up to its closing bracket. -/
def items : Nat → Reader (List Data)
  | 0 => failure
  | steps + 1 => do
    let item ← value steps
    spaces
    if ← Reader.optionally ',' then
      spaces
      return item :: (← items steps)
    Reader.literal ']'
    return [item]

/-- The entries of a table, up to its closing brace. -/
def entries : Nat → Reader (List (Option String × Data))
  | 0 => failure
  | steps + 1 => do
    let key ← string
    spaces
    Reader.literal ':'
    spaces
    let value ← value steps
    spaces
    if ← Reader.optionally ',' then
      spaces
      return (key, value) :: (← entries steps)
    Reader.literal '\x7d'
    return [(key, value)]

end

/-- The data a JSON text denotes, if it is one. -/
def read? (text : String) : Option Data :=
  let chars := text.toList
  let document : Reader Data := do
    spaces
    let data ← value (chars.length + 1)
    spaces
    return data
  document.whole chars

/-- The greatest depth of lists and tables that are made use of. -/
def depthLimit : Nat := 127

/-- Behind a variant without data stands `null`. -/
def dialect : Data.Dialect where
  isEmptyPayload
    | .null => true
    | _ => false
  closesBodies := false
  allowsSurplus := false

end RecordFilter.Json
