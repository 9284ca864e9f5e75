/-
What a record answers when it is asked for a field. A record is any function
from field names to slots, so that a host decides for itself how its fields
are stored; a slot is a scalar, a record, a collection of slots, or missing,
which is not the same as holding null.
-/
import RecordFilter.Value

namespace RecordFilter

/-- The content of a field. -/
inductive Slot where
  | value (v : Value)
  | record (read : String → Slot)
  | list (items : List Slot)
  | missing

/-- A record, as the function that reads its fields by their declared
names. -/
abbrev Record := String → Slot

namespace Slot

/-- The slot of a host's value. -/
def ofValue {α : Type} [ToValue α] (v : α) : Slot := .value (toValue v)

/-- The slot of a nested record; an absent one is null. -/
def ofRecord? (record? : Option Record) : Slot :=
  record?.elim (.value .null) .record

/-- The slot of a collection of values. -/
def ofValues {α : Type} [ToValue α] (items : List α) : Slot :=
  .list (items.map ofValue)

/-- The slot of a collection of records. -/
def ofRecords (items : List Record) : Slot := .list (items.map .record)

/-- One item of a collection. Beyond its end, and in anything that is not a
collection, there is none. -/
def index (slot : Slot) (i : UInt64) : Slot :=
  match slot with
  | .list items => items[i.toNat]?.getD .missing
  | .value _ | .record _ | .missing => .missing

end Slot

end RecordFilter
