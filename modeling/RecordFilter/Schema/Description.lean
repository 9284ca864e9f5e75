/-
Schemas as data. A schema is a table of its name and fields, a field one of
its name, kind and nullability, and a kind has one entry, whose key says
which kind it is. Scalars but enums are named by a text. What is written is
one of several forms that can be read: structures may also be lists, a
field is not nullable unless it says so, and keys that mean nothing are
passed over.

A reader may open only so many lists and tables inside each other; what it
passes over does not count.
-/
import RecordFilter.Data
import RecordFilter.Schema

namespace RecordFilter

-- ============================================================= writing

/-- A scalar kind as data. -/
def LeafKind.toData : LeafKind → Data
  | .enum variants =>
    .table [("enum", .table [("variants", .list (variants.map .text))])]
  | kind => .text kind.label

mutual

/-- A kind as data. -/
def FieldKind.toData : FieldKind → Data
  | .leaf kind => .table [("leaf", kind.toData)]
  | .record schema => .table [("record", schema.toData)]
  | .list element => .table [("list", element.toData)]
termination_by structural kind => kind

/-- A field as data. -/
def Field.toData : Field → Data
  | ⟨name, kind, nullable⟩ =>
    .table [("name", .text name), ("kind", kind.toData),
      ("nullable", .bool nullable)]
termination_by structural field => field

/-- A schema as data. -/
def Schema.toData : Schema → Data
  | ⟨name, fields⟩ =>
    .table [("name", .text name),
      ("fields", .list (Schema.fieldsToData fields))]
termination_by structural schema => schema

/-- Fields as data. -/
def Schema.fieldsToData : List Field → List Data
  | [] => []
  | field :: rest => field.toData :: Schema.fieldsToData rest
termination_by structural fields => fields

end

-- ============================================================= reading

namespace LeafKind

/-- The kind of a name that needs nothing else. -/
def named? : String → Option LeafKind
  | "bool" => some bool
  | "int" => some int
  | "uint" => some uint
  | "float" => some float
  | "text" => some text
  | "date_time" => some dateTime
  | "other" => some other
  | _ => none

/-- The variants in the body of an enum; without any it is open. -/
def variants? (dialect : Data.Dialect) (limit : Nat) (body : Data) :
    Option (List String) :=
  match limit, body.fieldValues? dialect dialect.closesBodies ["variants"] with
  | _ + 1, some [none] => some []
  | _ + 2, some [some variants] => variants.texts?
  | _, _ => none

/-- Reads a scalar kind: a name, or an entry with a name and what belongs to
it. -/
def ofData? (dialect : Data.Dialect) : Nat → Data → Option LeafKind
  | _, .text name => named? name
  | limit + 1, .table [(name, payload)] =>
    if name = "enum" then (variants? dialect limit payload).map enum
    else if dialect.isEmptyPayload payload then named? name
    else none
  | _, _ => none

end LeafKind

mutual

/-- Reads a kind. -/
def FieldKind.ofData? (dialect : Data.Dialect) : Nat → Data → Option FieldKind
  | limit + 1, .table [(name, payload)] =>
    if name = "leaf" then (LeafKind.ofData? dialect limit payload).map .leaf
    else if name = "record" then
      (Schema.ofData? dialect limit payload).map .record
    else if name = "list" then
      (FieldKind.ofData? dialect limit payload).map .list
    else none
  | _, _ => none
termination_by structural limit => limit

/-- Reads a field. -/
def Field.ofData? (dialect : Data.Dialect) : Nat → Data → Option Field
  | 0, _ => none
  | limit + 1, data =>
    match data.fieldValues? dialect false ["name", "kind", "nullable"] with
    | some [some (.text name), some kind, nullable] => do
      let kind ← FieldKind.ofData? dialect limit kind
      let nullable ← nullable.elim (some false) Data.bool?
      return ⟨name, kind, nullable⟩
    | _ => none
termination_by structural limit => limit

/-- Reads a schema. -/
def Schema.ofData? (dialect : Data.Dialect) : Nat → Data → Option Schema
  | limit + 2, data =>
    match data.fieldValues? dialect false ["name", "fields"] with
    | some [some (.text name), some (.list fields)] =>
      (fields.mapM (Field.ofData? dialect limit)).map (Schema.mk name)
    | _ => none
  | _, _ => none
termination_by structural limit => limit

end

end RecordFilter
