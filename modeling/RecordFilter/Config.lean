/-
How the parameters of an endpoint are read: which names are none of the
filter's business, what delimits the literals of a value, and whether blanks
around literals count. A delimiter must not be able to occur in keys or in
quoted literals: letters, digits, blanks and the characters of their syntax
are refused.
-/
import RecordFilter.Data
import RecordFilter.Error
import RecordFilter.Text.Alphanumeric
import RecordFilter.Text.Character

namespace RecordFilter

/-- How parameters are read. The ignored names are in ascending order, each
once. -/
structure Config where
  ignored : List String
  delimiter : Char
  trims : Bool
  deriving DecidableEq, Repr

namespace Config

/-- Characters of the syntax of keys and quoted literals. -/
def isSyntactic (c : Char) : Bool :=
  c == '-' || c == '.' || c == '[' || c == ']' || c == '"' || c == '\\'

/-- Whether a character can serve as a delimiter. -/
def isDelimiter (c : Char) : Bool :=
  !(Text.isAlphanumeric c || Text.isBlank c || isSyntactic c)

/-- Commas delimit literals, blanks count, and no name is ignored. -/
def standard : Config := ⟨[], ',', false⟩

/-- Whether the delimiter can serve as one. -/
def isValid (config : Config) : Bool := isDelimiter config.delimiter

/-- The configuration itself, if it is valid. -/
def validated (config : Config) : Except SetupError Config :=
  if config.isValid then .ok config
  else .error (.invalidDelimiter config.delimiter)

/-- Puts a name among names in ascending order. -/
def insertName (name : String) : List String → List String
  | [] => [name]
  | other :: rest =>
    if name = other then other :: rest
    else if name < other then name :: other :: rest
    else other :: insertName name rest

/-- Ignores one more name. -/
def ignore (config : Config) (name : String) : Config :=
  { config with ignored := insertName name config.ignored }

/-- Ignores more names. -/
def ignoreAll (config : Config) (names : List String) : Config :=
  names.foldl ignore config

/-- Takes another delimiter, if it can serve as one. -/
def withDelimiter (config : Config) (delimiter : Char) :
    Except SetupError Config :=
  validated { config with delimiter }

/-- Says whether blanks around literals are dropped. -/
def withTrimming (config : Config) (trims : Bool) : Config :=
  { config with trims }

/-- Whether a name is ignored; it must be the exact name. -/
def ignores (config : Config) (name : String) : Bool :=
  config.ignored.contains name

-- ============================================================= as data

/-- The names of the settings, in order. -/
def settingNames : List String := ["ignore", "value_delimiter", "trim_values"]

/-- A configuration as data. -/
def toData (config : Config) : Data :=
  .table [("ignore", .list (config.ignored.map .text)),
    ("value_delimiter", .text (String.singleton config.delimiter)),
    ("trim_values", .bool config.trims)]

/-- A text of exactly one character, as that character. -/
def char? (d : Data) : Option Char :=
  match d.text?.map String.toList with
  | some [c] => some c
  | _ => none

/-- Reads a setting that keeps its value where it is not given. -/
def setting {α : Type} (read? : Data → Option α) (standard : α) :
    Option Data → Option α
  | none => some standard
  | some data => read? data

/-- Reads settings, whether or not the delimiter can serve. Settings that
are not given are the standard ones, and there are no others. -/
def ofData? (dialect : Data.Dialect) (data : Data) : Option Config :=
  match data.fieldValues? dialect true settingNames with
  | some [names, delimiter, trims] => do
    let names ← setting Data.texts? standard.ignored names
    let delimiter ← setting char? standard.delimiter delimiter
    let trims ← setting Data.bool? standard.trims trims
    return { standard.ignoreAll names with delimiter, trims }
  | _ => none

end Config

end RecordFilter
