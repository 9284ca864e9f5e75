/-
Schemas, configurations and documents from texts. A text that is not well
formed and one that describes something else fail alike; what is read is
validated before it is handed out.
-/
import RecordFilter.Config
import RecordFilter.Document
import RecordFilter.Json
import RecordFilter.Schema.Description
import RecordFilter.Schema.Validation
import RecordFilter.Toml

namespace RecordFilter

/-- The scalar kind a JSON text describes. -/
def LeafKind.ofJson? (text : String) : Option LeafKind :=
  (Json.read? text).bind (LeafKind.ofData? Json.dialect Json.depthLimit)

/-- The kind of field a JSON text describes. -/
def FieldKind.ofJson? (text : String) : Option FieldKind :=
  (Json.read? text).bind (FieldKind.ofData? Json.dialect Json.depthLimit)

namespace Schema

/-- The schema a JSON text describes, valid or not. -/
def describedByJson? (text : String) : Option Schema :=
  (Json.read? text).bind (ofData? Json.dialect Json.depthLimit)

/-- Loads a schema from data. What is said of data that describe none
depends on the format they came in. -/
def load (dialect : Data.Dialect) (limit : Nat) (failure : SetupError)
    (data : Data) : Except SetupError Schema :=
  (ofData? dialect limit data).elim (.error failure) validated

/-- Loads a schema from JSON. -/
def ofJson (text : String) : Except SetupError Schema :=
  (Json.read? text).elim (.error .json)
    (load Json.dialect Json.depthLimit .json)

/-- Loads a schema from TOML, where nothing limits how deep data may go. -/
def ofToml (text : String) : Except SetupError Schema :=
  (Toml.read? text).elim (.error .toml) fun data =>
    load Toml.dialect data.depth .toml data

end Schema

namespace Config

/-- Loads a configuration from TOML. -/
def ofToml (text : String) : Except SetupError Config :=
  ((Toml.read? text).bind (ofData? Toml.dialect)).elim (.error .toml) validated

/-- Loads a configuration from JSON data. A delimiter that cannot serve is
an error of the data here. -/
def ofJsonData (data : Data) : Except SetupError Config :=
  ((ofData? Json.dialect data).filter isValid).elim (.error .json) .ok

/-- Loads a configuration from a JSON text. -/
def ofJson (text : String) : Except SetupError Config :=
  (Json.read? text).elim (.error .json) ofJsonData

end Config

/-- Why a text is no document. -/
inductive DocumentError where
  | json
  | notAnObject
  deriving DecidableEq, Repr

/-- The field content a JSON text stands for. -/
def DocumentField.ofJson? (text : String) : Option DocumentField :=
  ((Json.read? text).filter fun data => data.depth ≤ Json.depthLimit).bind
    ofData?

/-- The document a JSON text stands for, which must be that of an object. -/
def Document.ofJson (text : String) : Except DocumentError Document :=
  match DocumentField.ofJson? text with
  | none => .error .json
  | some (.document d) => .ok d
  | some _ => .error .notAnObject

end RecordFilter
