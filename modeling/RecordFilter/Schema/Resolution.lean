/-
Resolution of field names against a schema. Names are looked up one after
the other, each in the schema of the record the names before it lead to; a
collection is looked through to what it holds. The last name may lead to a
scalar or to a record, every other must lead to a record.
-/
import RecordFilter.Schema

namespace RecordFilter

/-- What a sequence of names leads to: a scalar, or a record, which has no
scalar form. -/
inductive Terminal where
  | leaf (kind : LeafKind)
  | record (schema : Schema)

/-- What a kind is once its collection layers are taken off. -/
def FieldKind.terminal : FieldKind → Terminal
  | .leaf kind => .leaf kind
  | .record schema => .record schema
  | .list element => element.terminal

/-- The result of a resolution: the declared names along the way, what they
lead to, whether the last field may be null, and whether a collection was
crossed. -/
structure Resolution where
  fields : List String
  terminal : Terminal
  nullable : Bool
  collection : Bool

namespace Resolution

/-- The result for a single field. -/
def ofField (field : Field) : Resolution :=
  ⟨[field.name], field.kind.terminal, field.nullable, field.kind.isCollection⟩

/-- The result with one more field in front. -/
def below (field : Field) (r : Resolution) : Resolution :=
  { r with
    fields := field.name :: r.fields
    collection := field.kind.isCollection || r.collection }

/-- The kind of the scalar the names lead to. -/
def leaf? (r : Resolution) : Option LeafKind :=
  match r.terminal with
  | .leaf kind => some kind
  | .record _ => none

/-- Whether the names lead to an enum. -/
def isEnum (r : Resolution) : Bool := r.leaf?.any LeafKind.isEnum

end Resolution

/-- Resolves a sequence of names. -/
def Schema.resolve? (schema : Schema) : List String → Option Resolution
  | [] => none
  | [name] => (schema.field? name).map Resolution.ofField
  | name :: next :: rest =>
    match schema.field? name with
    | none => none
    | some field =>
      match field.kind.terminal with
      | .leaf _ => none
      | .record nested =>
        (nested.resolve? (next :: rest)).map (Resolution.below field)

end RecordFilter
