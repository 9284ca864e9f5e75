/-
Schemas: what the records of one type look like to a query. A schema names
its fields; each field is a scalar of some kind, a nested record or a
collection of either, and may be null. Records and collections nest to any
depth.
-/
import RecordFilter.Text.Lowercase

namespace RecordFilter

/-- The kind of a scalar field, which decides how it is compared. -/
inductive LeafKind where
  | bool
  | int
  | uint
  | float
  /-- The declared variants, in order. Without any the enum is open. -/
  | enum (variants : List String)
  | text
  | dateTime
  | other
  deriving DecidableEq, Repr

namespace LeafKind

/-- Kinds whose values are numbers. -/
def isNumeric : LeafKind → Bool
  | int | uint | float => true
  | _ => false

/-- The kind of texts. -/
def isText : LeafKind → Bool
  | text => true
  | _ => false

/-- Enums, open or not. -/
def isEnum : LeafKind → Bool
  | enum _ => true
  | _ => false

/-- Kinds with an order: an enum is ordered as its variants are declared. -/
def isOrderable : LeafKind → Bool
  | int | uint | float | dateTime => true
  | enum variants => !variants.isEmpty
  | bool | text | other => false

/-- The name of a kind. -/
def label : LeafKind → String
  | bool => "bool"
  | int => "int"
  | uint => "uint"
  | float => "float"
  | enum _ => "enum"
  | text => "text"
  | dateTime => "date_time"
  | other => "other"

end LeafKind

mutual

/-- What a field holds. -/
inductive FieldKind where
  | leaf (kind : LeafKind)
  | record (schema : Schema)
  | list (element : FieldKind)

/-- A field, by the name under which records are asked for it. -/
structure Field where
  name : String
  kind : FieldKind
  nullable : Bool

/-- The fields of a record type, in the order of their declaration. -/
structure Schema where
  name : String
  fields : List Field

end

namespace FieldKind

/-- Whether the field is a collection. -/
def isCollection : FieldKind → Bool
  | list _ => true
  | leaf _ | record _ => false

/-- What a collection holds, all its layers taken off. -/
def element : FieldKind → FieldKind
  | leaf kind => leaf kind
  | record schema => record schema
  | list inner => inner.element

/-- The kind as a text. -/
def describe : FieldKind → String
  | leaf kind => kind.label
  | record schema => "record<" ++ schema.name ++ ">"
  | list inner => "list<" ++ inner.describe ++ ">"

end FieldKind

/-- Whether two field names are the same but for case. Every character is
made small on its own; names of ASCII characters need no table. -/
def sameName (a b : String) : Bool :=
  if Text.isAscii a.toList && Text.isAscii b.toList then
    Text.sameIgnoringAsciiCase a b
  else Text.lowerEach a.toList == Text.lowerEach b.toList

/-- Names are the same if they fold to the same, whichever way they are
compared. -/
theorem sameName_iff {a b : String} :
    sameName a b = true
      ↔ Text.lowerEach a.toList = Text.lowerEach b.toList := by
  unfold sameName
  split
  · next h =>
    rw [Bool.and_eq_true] at h
    rw [Text.sameIgnoringAsciiCase_iff, Text.lowerEach_of_isAscii h.1,
      Text.lowerEach_of_isAscii h.2]
  · exact beq_iff_eq

theorem sameName_comm (a b : String) : sameName a b = sameName b a := by
  rw [Bool.eq_iff_iff, sameName_iff, sameName_iff]
  exact eq_comm

/-- A name is compared alike with names that are the same. -/
theorem sameName_congr_right {a b : String} (h : sameName a b = true)
    (name : String) :
    sameName name a = sameName name b := by
  rw [Bool.eq_iff_iff, sameName_iff, sameName_iff, sameName_iff.mp h]

/-- The first field of a name, however it is spelled. -/
def Schema.field? (schema : Schema) (name : String) : Option Field :=
  schema.fields.find? fun field => sameName field.name name

-- =========================================================== declaring

namespace Field

/-- A scalar that is never null. -/
def scalar (kind : LeafKind) (name : String) : Field :=
  ⟨name, .leaf kind, false⟩

/-- A scalar that may be null. -/
def nullableScalar (kind : LeafKind) (name : String) : Field :=
  ⟨name, .leaf kind, true⟩

/-- An enum with its variants, smallest first. -/
def enumeration (name : String) (variants : List String) : Field :=
  scalar (.enum variants) name

/-- An opaque value, which may be null. -/
def other (name : String) : Field := nullableScalar .other name

/-- A nested record, which may be null. -/
def record (name : String) (schema : Schema) : Field :=
  ⟨name, .record schema, true⟩

/-- A collection of scalars. -/
def list (name : String) (element : LeafKind) : Field :=
  ⟨name, .list (.leaf element), true⟩

/-- A collection of records. -/
def records (name : String) (schema : Schema) : Field :=
  ⟨name, .list (.record schema), true⟩

end Field

end RecordFilter
