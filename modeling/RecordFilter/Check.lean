/-
Checks: compiled comparisons. A check reads its way into a record, one
declared field after the other with the subscripts written on it, and looks
through every collection it meets for some value that passes its test. A
negated check passes where there is none.
-/
import RecordFilter.Slot
import RecordFilter.Test

namespace RecordFilter

/-- One field to read, and the items to pick from it. -/
structure Step where
  field : String
  subscripts : List UInt64
  deriving DecidableEq, Repr

namespace Slot

mutual

/-- Whether one of the slots that are not collections passes, among those
reached through collections. -/
def anyElement (p : Slot → Bool) : Slot → Bool
  | .list items => anyElementOf p items
  | .value v => p (.value v)
  | .record read => p (.record read)
  | .missing => p .missing
termination_by structural slot => slot

/-- Whether one of the elements of some slots passes. -/
def anyElementOf (p : Slot → Bool) : List Slot → Bool
  | [] => false
  | slot :: rest => slot.anyElement p || anyElementOf p rest
termination_by structural slots => slots

end

/-- Picks items by one subscript after the other. -/
def pick (slot : Slot) (subscripts : List UInt64) : Slot :=
  subscripts.foldl index slot

/-- Whether some value at the end of the steps passes. A record at the end
has no value, and a value before the end no fields. -/
def anyValue (p : Value → Bool) : List Step → Slot → Bool
  | [], slot =>
    slot.anyElement fun
      | .value v => p v
      | _ => false
  | step :: rest, slot =>
    slot.anyElement fun
      | .record read =>
        anyValue p rest ((read step.field).pick step.subscripts)
      | _ => false

end Slot

/-- A compiled comparison. -/
structure Check where
  steps : List Step
  test : Test
  negated : Bool
  deriving DecidableEq

/-- Whether a record passes a check. -/
def Check.accepts (check : Check) (record : Record) : Bool :=
  (Slot.record record).anyValue check.test.accepts check.steps != check.negated

end RecordFilter
