/-
Selection: the values that steps lead to in a record, all of them and in
order. What is asked of the values plays no part here, so that a check, which
stops at the first value that passes, is an existential statement about the
selection.

Subscripts are given their meaning anew. They lead to an item of a
collection in a collection, or nowhere, where a check goes on with a missing
slot; `pick_eq_getD` says that these are the same.
-/
import RecordFilter.Check

namespace RecordFilter.Slot

-- ============================================================= subscripts

/-- The item that subscripts lead to, from one collection into the next.
They lead nowhere beyond the end of a collection, nor in a slot that is
none. -/
def item? : Slot → List UInt64 → Option Slot
  | slot, [] => some slot
  | .list items, i :: rest => items[i.toNat]?.bind fun item => item.item? rest
  | _, _ :: _ => none

/-- There is nothing to pick from what is missing. -/
theorem pick_missing (subscripts : List UInt64) :
    Slot.missing.pick subscripts = .missing := by
  induction subscripts with
  | nil => rfl
  | cons _ rest ih => exact ih

/-- Picking gives the item, or what is missing where there is none. -/
theorem pick_eq_getD (slot : Slot) (subscripts : List UInt64) :
    slot.pick subscripts = (slot.item? subscripts).getD .missing := by
  induction subscripts generalizing slot with
  | nil => rfl
  | cons i rest ih =>
    have hpick : slot.pick (i :: rest) = (slot.index i).pick rest := rfl
    cases slot with
    | list items =>
      rw [hpick, index, item?]
      cases items[i.toNat]? with
      | none => exact pick_missing rest
      | some item => exact ih item
    | value _ | record _ | missing => exact pick_missing rest

-- ============================================================== selection

mutual

/-- The slots that are not collections, among those reached through
collections. -/
def elements : Slot → List Slot
  | .list items => elementsOf items
  | .value v => [.value v]
  | .record read => [.record read]
  | .missing => [.missing]
termination_by structural slot => slot

/-- The elements of some slots. -/
def elementsOf : List Slot → List Slot
  | [] => []
  | slot :: rest => slot.elements ++ elementsOf rest
termination_by structural slots => slots

end

/-- The values that steps select. A record at their end holds no value, a
value before it no fields, and what is missing nothing. -/
def selected : List Step → Slot → List Value
  | [], slot =>
    slot.elements.flatMap fun
      | .value v => [v]
      | _ => []
  | step :: rest, slot =>
    slot.elements.flatMap fun
      | .record read =>
        ((read step.field).item? step.subscripts).elim [] (selected rest)
      | _ => []

-- ====================================================== slot by slot

/-- The elements of some slots are those of each of them, in order. -/
theorem elementsOf_eq_flatMap (slots : List Slot) :
    elementsOf slots = slots.flatMap elements := by
  induction slots with
  | nil => rfl
  | cons slot rest ih => rw [elementsOf, List.flatMap_cons, ih]

/-- A collection selects what its items select, however deep they are
nested. -/
theorem selected_list (steps : List Step) (items : List Slot) :
    (Slot.list items).selected steps
      = items.flatMap fun item => item.selected steps := by
  cases steps with
  | nil =>
      simp only [selected, elements, elementsOf_eq_flatMap, List.flatMap_assoc]
  | cons step rest =>
      simp only [selected, elements, elementsOf_eq_flatMap, List.flatMap_assoc]

@[simp] theorem selected_missing (steps : List Step) :
    Slot.missing.selected steps = [] := by
  cases steps <;> rfl

/-- What is picked selects what the item does, if there is one. -/
theorem selected_pick (steps : List Step) (slot : Slot)
    (subscripts : List UInt64) :
    (slot.pick subscripts).selected steps
      = (slot.item? subscripts).elim [] (selected steps) := by
  rw [pick_eq_getD]
  cases slot.item? subscripts with
  | none => exact selected_missing steps
  | some _ => rfl

@[simp] theorem selected_value (v : Value) :
    (Slot.value v).selected [] = [v] := rfl

/-- A value has no fields. -/
@[simp] theorem selected_value_early (step : Step) (rest : List Step)
    (v : Value) :
    (Slot.value v).selected (step :: rest) = [] := rfl

/-- A record holds no value of its own. -/
@[simp] theorem selected_record_late (read : Record) :
    (Slot.record read).selected [] = [] := rfl

/-- In a record, a step leads on from the slot that it picks. -/
@[simp] theorem selected_record (step : Step) (rest : List Step)
    (read : Record) :
    (Slot.record read).selected (step :: rest)
      = ((read step.field).pick step.subscripts).selected rest := by
  simp [selected, elements, selected_pick]

-- ============================================================= checking

mutual

/-- A check looks at the elements of a slot, and at nothing else. -/
theorem anyElement_eq (p : Slot → Bool) :
    (slot : Slot) → slot.anyElement p = slot.elements.any p
  | .list items => by rw [anyElement, elements, anyElementOf_eq]
  | .value v => by simp [anyElement, elements]
  | .record read => by simp [anyElement, elements]
  | .missing => by simp [anyElement, elements]

theorem anyElementOf_eq (p : Slot → Bool) :
    (slots : List Slot) → anyElementOf p slots = (elementsOf slots).any p
  | [] => by simp [anyElementOf, elementsOf]
  | slot :: rest => by
    rw [anyElementOf, elementsOf, List.any_append, anyElement_eq,
      anyElementOf_eq]

end

/-- Some value passes exactly if some selected one does. -/
theorem anyValue_eq (p : Value → Bool) (steps : List Step) (slot : Slot) :
    slot.anyValue p steps = (slot.selected steps).any p := by
  induction steps generalizing slot with
  | nil =>
    rw [anyValue, selected, anyElement_eq, List.any_flatMap]
    congr 1
    funext element
    cases element <;> simp
  | cons step rest ih =>
    rw [anyValue, selected, anyElement_eq, List.any_flatMap]
    congr 1
    funext element
    cases element <;> simp [ih, selected_pick]

end RecordFilter.Slot
