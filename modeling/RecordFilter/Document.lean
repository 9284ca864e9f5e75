/-
Documents: records that own their fields, for hosts without a record type.
The fields of a document are kept in the order of their names, each name
once, and are found by the exact name. A document can be made from data of
a format; texts stay texts there and are taken as dates or variants only
when a query compares them as such.
-/
import RecordFilter.Data
import RecordFilter.Slot

namespace RecordFilter

mutual

/-- The content of a document's field. -/
inductive DocumentField where
  | value (v : Value)
  | document (d : Document)
  | list (items : List DocumentField)

/-- Fields by name. -/
structure Document where
  fields : List (String × DocumentField)

end

namespace Document

/-- The document without fields. -/
def empty : Document := ⟨[]⟩

/-- Puts a field among others that are in the order of their names, in place
of the one of the same name if there is one. -/
def insertField (name : String) (field : DocumentField) :
    List (String × DocumentField) → List (String × DocumentField)
  | [] => [(name, field)]
  | (other, content) :: rest =>
    if name = other then (name, field) :: rest
    else if name < other then (name, field) :: (other, content) :: rest
    else (other, content) :: insertField name field rest

/-- Sets a field. -/
def insert (d : Document) (name : String) (field : DocumentField) : Document :=
  ⟨insertField name field d.fields⟩

/-- The field of exactly this name. -/
def get? (d : Document) (name : String) : Option DocumentField :=
  List.lookup name d.fields

/-- The document of fields given in order; of fields of one name the last
stays. -/
def ofFields (fields : List (String × DocumentField)) : Document :=
  fields.foldl (fun d (name, field) => d.insert name field) empty

/-- Sets a scalar field. -/
def withValue {α : Type} [ToValue α] (d : Document) (name : String) (v : α) :
    Document :=
  d.insert name (.value (toValue v))

/-- Sets a field to a nested document. -/
def withDocument (d : Document) (name : String) (nested : Document) :
    Document :=
  d.insert name (.document nested)

/-- Sets a field to a collection. -/
def withList (d : Document) (name : String) (items : List DocumentField) :
    Document :=
  d.insert name (.list items)

end Document

-- ============================================================ as records

mutual

/-- A field's content as a slot. -/
def DocumentField.slot : DocumentField → Slot
  | .value v => .value v
  | .document d => .record d.record
  | .list items => .list (DocumentField.slots items)
termination_by structural field => field

/-- The items of a collection as slots. -/
def DocumentField.slots : List DocumentField → List Slot
  | [] => []
  | item :: rest => item.slot :: DocumentField.slots rest
termination_by structural items => items

/-- A document as a record. -/
def Document.record : Document → Record
  | ⟨fields⟩ => DocumentField.read fields
termination_by structural d => d

/-- Reads a field among others. -/
def DocumentField.read : List (String × DocumentField) → Record
  | [] => fun _ => .missing
  | (name, field) :: rest =>
    fun asked =>
      if asked = name then field.slot else DocumentField.read rest asked
termination_by structural fields => fields

end

-- ============================================================= from data

/-- The value of a number. -/
def Value.ofNumber : Number → Value
  | .int n => .int n
  | .uint n => .uint n
  | .float x => .float x

mutual

/-- The content that data stand for; dates, unreadable and malformed data
stand for none. -/
def DocumentField.ofData? : Data → Option DocumentField
  | .null => some (.value .null)
  | .bool b => some (.value (.bool b))
  | .number n => some (.value (Value.ofNumber n))
  | .text s => some (.value (.text s))
  | .list items => (DocumentField.ofItems? items).map .list
  | .table entries =>
    (DocumentField.ofEntries? entries).map fun fields =>
      .document (Document.ofFields fields)
  | .date | .unreadable | .malformed => none
termination_by structural data => data

/-- The contents that the items of a list stand for. -/
def DocumentField.ofItems? : List Data → Option (List DocumentField)
  | [] => some []
  | item :: rest => do
    return (← DocumentField.ofData? item) :: (← DocumentField.ofItems? rest)
termination_by structural items => items

/-- The fields that the entries of a table stand for. -/
def DocumentField.ofEntries? :
    List (String × Data) → Option (List (String × DocumentField))
  | [] => some []
  | (name, data) :: rest => do
    return (name, ← DocumentField.ofData? data)
      :: (← DocumentField.ofEntries? rest)
termination_by structural entries => entries

end

end RecordFilter
