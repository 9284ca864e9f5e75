/-
TOML texts. A text is a sequence of lines, each blank, a header or a key
with its value; headers say which table the keys after them belong to. Lists
and tables in line may go over several lines and may end with a comma; in a
table in line, a line may also end on either side of an equals sign. They
lie within each other only to a limit.
-/
import RecordFilter.Toml.Node
import RecordFilter.Toml.Scalar
import RecordFilter.Toml.Text

namespace RecordFilter.Toml

-- ============================================================== values

mutual

/-- A value within which lists and tables in line may go as deep as the
room. The count bounds the steps; a text's length is always enough. -/
def value (room : Nat) : Nat → Reader Data
  | 0 => failure
  | steps + 1 => do
    match ← Reader.next? with
    | some '"' | some '\'' => return .text (← string)
    | some '[' =>
      Reader.literal '['
      guard (0 < room)
      return .list (← items (room - 1) steps)
    | some '\x7b' =>
      Reader.literal '\x7b'
      guard (0 < room)
      return .table (Node.entriesToData (← inlineEntries (room - 1) steps []))
    | _ => scalar

/-- The items of a list, up to its closing bracket. -/
def items (room : Nat) : Nat → Reader (List Data)
  | 0 => failure
  | steps + 1 => do
    blankLines steps
    if ← Reader.optionally ']' then return []
    let item ← value room steps
    blankLines steps
    if ← Reader.optionally ',' then return item :: (← items room steps)
    Reader.literal ']'
    return [item]

/-- The entries of a table in line, up to its closing brace, added to those
before them. -/
def inlineEntries (room : Nat) : Nat → Entries → Reader Entries
  | 0, _ => failure
  | steps + 1, entries => do
    blankLines steps
    if ← Reader.optionally '\x7d' then return entries
    let key ← key
    blankLines steps
    Reader.literal '='
    blankLines steps
    let data ← value room steps
    let entries ← (entries.assign data key : Option Entries)
    blankLines steps
    if ← Reader.optionally ',' then return ← inlineEntries room steps entries
    Reader.literal '\x7d'
    return entries

end

-- ========================================================== statements

/-- What a line says. -/
inductive Statement where
  | blank
  | header (isItem : Bool) (path : List String)
  | assignment (key : List String) (data : Data)

/-- A header, behind its first bracket. -/
def header : Reader Statement := do
  let isItem ← Reader.optionally '['
  spaces
  let path ← key
  Reader.literal ']'
  if isItem then Reader.literal ']'
  return .header isItem path

/-- A line, without its end. -/
def statement (steps : Nat) : Reader Statement := do
  spaces
  let statement ← (do
    match ← Reader.next? with
    | none | some '#' | some '\n' | some '\r' => return Statement.blank
    | some '[' =>
      Reader.literal '['
      header
    | _ =>
      let key ← key
      Reader.literal '='
      spaces
      return .assignment key (← value depthLimit steps))
  spaces
  comment
  return statement

/-- The lines of a text. -/
def statements : Nat → Reader (List Statement)
  | 0 => failure
  | steps + 1 => do
    let first ← statement steps
    match ← Reader.next? with
    | none => return [first]
    | some _ =>
      lineEnd
      return first :: (← statements steps)

-- =========================================================== documents

/-- The assignments up to the next header, and what follows them. -/
def assignments : List Statement → List (List String × Data) × List Statement
  | .assignment key data :: rest =>
    let (more, after) := assignments rest
    ((key, data) :: more, after)
  | .blank :: rest => assignments rest
  | rest => ([], rest)

/-- Makes assignments in a table, one after the other. -/
def fill (pairs : List (List String × Data)) (entries : Entries) :
    Option Entries :=
  pairs.foldlM (fun entries (key, data) => entries.assign data key) entries

/-- Carries statements out. The assignments that follow a header are made in
its table. -/
def build : List Statement → Entries → Option Entries
  | [], entries => some entries
  | .header isItem path :: rest, entries =>
    (entries.openTable isItem (fill (assignments rest).1) path).bind
      (build rest)
  | .blank :: rest, entries => build rest entries
  | .assignment .. :: rest, entries => build rest entries

/-- A text without the byte order mark that may stand in front. -/
def dropMark : List Char → List Char
  | '\uFEFF' :: text => text
  | text => text

/-- The data a TOML text denotes, if it is one. -/
def read? (text : String) : Option Data := do
  let chars := dropMark text.toList
  let statements ← (statements (chars.length + 2)).whole chars
  let entries ← fill (assignments statements).1 []
  let entries ← build statements entries
  return .table (Node.entriesToData entries)

/-- Behind a variant without data stands an empty table or list; the body of
a variant allows no unknown keys. -/
def dialect : Data.Dialect where
  isEmptyPayload
    | .table [] | .list [] => true
    | _ => false
  closesBodies := true
  allowsSurplus := true

end RecordFilter.Toml
