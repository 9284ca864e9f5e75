/-
Validity of schemas: in no schema, however deep it is nested, do two fields
have the same name. The error names the first repetition that is met when
fields are visited in the order of their declaration, each field's own name
before what is nested in it.
-/
import RecordFilter.Error
import RecordFilter.Schema

namespace RecordFilter

mutual

/-- The first repeated field of a schema and of all schemas nested in it. -/
def Schema.repetition? : Schema → Option SetupError
  | ⟨name, fields⟩ => Schema.repetitionAmong? name [] fields
termination_by structural schema => schema

/-- The first repetition among fields that stand behind others. -/
def Schema.repetitionAmong? (schema : String) (before : List String) :
    List Field → Option SetupError
  | [] => none
  | field :: rest =>
    match field.repetition? schema before with
    | some error => some error
    | none => Schema.repetitionAmong? schema (before ++ [field.name]) rest
termination_by structural fields => fields

/-- The field itself, if its name stands before it, or else the first
repetition within it. -/
def Field.repetition? (schema : String) (before : List String) :
    Field → Option SetupError
  | ⟨name, kind, _⟩ =>
    if before.any (sameName · name) then some (.duplicateField schema name)
    else kind.repetition?
termination_by structural field => field

/-- The first repetition within a kind. -/
def FieldKind.repetition? : FieldKind → Option SetupError
  | .leaf _ => none
  | .record schema => schema.repetition?
  | .list element => element.repetition?
termination_by structural kind => kind

end

/-- Whether all field names are told apart, at every depth. -/
def Schema.validate (schema : Schema) : Except SetupError Unit :=
  match schema.repetition? with
  | some error => .error error
  | none => .ok ()

/-- The schema itself, if it is valid. -/
def Schema.validated (schema : Schema) : Except SetupError Schema :=
  schema.validate.map fun _ => schema

end RecordFilter
