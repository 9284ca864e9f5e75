/-
Formulas and what their traversals have in common. A formula is evaluated,
flattened to its atoms, and rebuilt with each atom replaced. Evaluation
stops at the first part that decides and replacement at the first atom that
fails, both by mutual recursion over parts of parts; what is shown here is
that they agree with the order of the atoms and with the declared reading
of `all` and `any`.

# The three statements

- `holds_iff`: evaluation decides `Satisfied`, which says "every part" and
  "some part" and knows nothing of an order or of stopping early.
- `failure?_traverse`: a replacement fails exactly as a search for the
  first failing atom among `atoms` does, however deep that atom stands.
- `satisfied_of_traverse`: a replacement that succeeds keeps the shape, so
  that the result is satisfied as the original is, atom for atom.

The proofs are mutual as the functions are: one statement for a formula,
one for a list of parts.
-/
import Mathlib.Data.List.Basic
import RecordFilter.Formula

namespace RecordFilter.Formula

variable {α β ε : Type}

-- ================================================================= atoms

/-- Parts that are atoms are their own atoms. -/
theorem atomsOf_map_atom (as : List α) : atomsOf (as.map atom) = as := by
  induction as with
  | nil => rfl
  | cons a rest ih =>
      rw [List.map_cons, atomsOf, atoms, ih]
      rfl

-- ========================================================== satisfaction

/-- Satisfaction of a formula when the atoms mean `p`: of a conjunction
every part, of a disjunction some part. -/
inductive Satisfied (p : α → Prop) : Formula α → Prop where
  | atom {a : α} (h : p a) : Satisfied p (atom a)
  | all {parts : List (Formula α)} (h : ∀ part ∈ parts, Satisfied p part) :
      Satisfied p (all parts)
  | any {parts : List (Formula α)} {part : Formula α} (hmem : part ∈ parts)
      (h : Satisfied p part) : Satisfied p (any parts)

@[simp] theorem satisfied_atom {p : α → Prop} {a : α} :
    (atom a).Satisfied p ↔ p a := by
  constructor
  · intro h
    cases h with
    | atom h => exact h
  · exact Satisfied.atom

/-- A conjunction is satisfied if all of its parts are; so is the empty one. -/
@[simp] theorem satisfied_all {p : α → Prop} {parts : List (Formula α)} :
    (all parts).Satisfied p ↔ ∀ part ∈ parts, part.Satisfied p := by
  constructor
  · intro h
    cases h with
    | all h => exact h
  · exact Satisfied.all

/-- A disjunction is satisfied if some part is; the empty one is not. -/
@[simp] theorem satisfied_any {p : α → Prop} {parts : List (Formula α)} :
    (any parts).Satisfied p ↔ ∃ part ∈ parts, part.Satisfied p := by
  constructor
  · intro h
    cases h with
    | any hmem h => exact ⟨_, hmem, h⟩
  · rintro ⟨part, hmem, h⟩
    exact Satisfied.any hmem h

mutual

/-- Satisfaction depends on the atoms of a formula and on nothing else. -/
theorem satisfied_congr {p q : α → Prop} :
    {f : Formula α} → (∀ a ∈ f.atoms, (p a ↔ q a)) →
      (f.Satisfied p ↔ f.Satisfied q)
  | atom a, h => by
      rw [satisfied_atom, satisfied_atom]
      exact h a (List.mem_singleton_self a)
  | all parts, h => by
      rw [satisfied_all, satisfied_all]
      exact forall₂_congr (satisfied_congr_of_mem parts h)
  | any parts, h => by
      rw [satisfied_any, satisfied_any]
      exact exists_congr fun part =>
        and_congr_right (satisfied_congr_of_mem parts h part)

/-- The same of each of some parts. -/
theorem satisfied_congr_of_mem {p q : α → Prop} :
    (parts : List (Formula α)) → (∀ a ∈ atomsOf parts, (p a ↔ q a)) →
      ∀ part ∈ parts, (part.Satisfied p ↔ part.Satisfied q)
  | [], _ => List.forall_mem_nil _
  | part :: rest, h => by
      rw [atomsOf, List.forall_mem_append] at h
      rw [List.forall_mem_cons]
      exact ⟨satisfied_congr h.1, satisfied_congr_of_mem rest h.2⟩

end

-- ============================================================ evaluation

mutual

/-- Evaluation decides satisfaction. -/
theorem holds_iff (p : α → Bool) :
    (f : Formula α) → (f.holds p = true ↔ f.Satisfied fun a => p a = true)
  | atom a => by
      rw [holds, satisfied_atom]
  | all parts => by
      rw [holds, satisfied_all, allHold_iff]
  | any parts => by
      rw [holds, satisfied_any, someHolds_iff]

/-- The parts of a conjunction. -/
theorem allHold_iff (p : α → Bool) :
    (parts : List (Formula α)) →
      (allHold p parts = true
        ↔ ∀ part ∈ parts, part.Satisfied fun a => p a = true)
  | [] => by
      simp [allHold]
  | part :: rest => by
      rw [allHold, Bool.and_eq_true, holds_iff p part, allHold_iff p rest,
        List.forall_mem_cons]

/-- The parts of a disjunction. -/
theorem someHolds_iff (p : α → Bool) :
    (parts : List (Formula α)) →
      (someHolds p parts = true
        ↔ ∃ part ∈ parts, part.Satisfied fun a => p a = true)
  | [] => by
      simp [someHolds]
  | part :: rest => by
      rw [someHolds, Bool.or_eq_true, holds_iff p part, someHolds_iff p rest,
        List.exists_mem_cons_iff]

end

-- =========================================================== replacement

/-- The error of a result that is one. -/
def failure? : Except ε β → Option ε
  | .error e => some e
  | .ok _ => none

@[simp] theorem failure?_error (e : ε) :
    failure? (.error e : Except ε β) = some e := rfl

@[simp] theorem failure?_ok (b : β) : failure? (.ok b : Except ε β) = none :=
  rfl

/-- What is done with a result does not make it fail. -/
@[simp] theorem failure?_map {γ : Type} (g : β → γ) (r : Except ε β) :
    failure? (r.map g) = failure? r := by
  cases r <;> rfl

/-- A change of the error changes nothing else. -/
@[simp] theorem failure?_mapError {ε' : Type} (g : ε → ε') (r : Except ε β) :
    failure? (r.mapError g) = (failure? r).map g := by
  cases r <;> rfl

theorem mapError_eq_ok_iff {ε' : Type} {g : ε → ε'} {r : Except ε β} {b : β} :
    r.mapError g = .ok b ↔ r = .ok b := by
  cases r <;> simp [Except.mapError]

/-- There is a failure exactly in an error. -/
theorem failure?_eq_some_iff {r : Except ε β} {e : ε} :
    failure? r = some e ↔ r = .error e := by
  cases r <;> simp

/-- There is no failure exactly in a result. -/
theorem failure?_eq_none_iff {r : Except ε β} :
    failure? r = none ↔ ∃ b, r = .ok b := by
  cases r <;> simp

mutual

/-- A replacement fails with the error of the first atom that fails. -/
theorem failure?_traverse (g : α → Except ε β) :
    (f : Formula α) →
      failure? (f.traverse g) = f.atoms.findSome? fun a => failure? (g a)
  | atom a => by
      rw [traverse, atoms, failure?_map, List.findSome?_singleton]
  | all parts => by
      rw [traverse, atoms, failure?_map, failure?_traverseAll]
  | any parts => by
      rw [traverse, atoms, failure?_map, failure?_traverseAll]

/-- The same of a list of parts. -/
theorem failure?_traverseAll (g : α → Except ε β) :
    (parts : List (Formula α)) →
      failure? (traverseAll g parts)
        = (atomsOf parts).findSome? fun a => failure? (g a)
  | [] => rfl
  | part :: rest => by
      rw [atomsOf, List.findSome?_append, ← failure?_traverse g part,
        ← failure?_traverseAll g rest, traverseAll]
      cases part.traverse g with
      | error e => rfl
      | ok part' => cases traverseAll g rest <;> rfl

end

mutual

/-- A replacement that succeeds keeps the shape: its result is satisfied
where the original is by the atoms whose replacements are. -/
theorem satisfied_of_traverse {g : α → Except ε β} {q : β → Prop} :
    (f : Formula α) → {f' : Formula β} → f.traverse g = .ok f' →
      (f'.Satisfied q ↔ f.Satisfied fun a => ∃ b, g a = .ok b ∧ q b)
  | atom a, f', h => by
      rw [traverse] at h
      cases hb : g a with
      | error e => rw [hb] at h; cases h
      | ok b =>
          rw [hb] at h
          cases h
          simp [hb]
  | all parts, f', h => by
      rw [traverse] at h
      cases hp : traverseAll g parts with
      | error e => rw [hp] at h; cases h
      | ok parts' =>
          rw [hp] at h
          cases h
          rw [satisfied_all, satisfied_all]
          exact (satisfied_of_traverseAll parts hp).1
  | any parts, f', h => by
      rw [traverse] at h
      cases hp : traverseAll g parts with
      | error e => rw [hp] at h; cases h
      | ok parts' =>
          rw [hp] at h
          cases h
          rw [satisfied_any, satisfied_any]
          exact (satisfied_of_traverseAll parts hp).2

/-- The same of a list of parts, read as a conjunction and as a
disjunction. -/
theorem satisfied_of_traverseAll {g : α → Except ε β} {q : β → Prop} :
    (parts : List (Formula α)) → {parts' : List (Formula β)} →
      traverseAll g parts = .ok parts' →
      ((∀ part' ∈ parts', part'.Satisfied q)
          ↔ ∀ part ∈ parts, part.Satisfied fun a => ∃ b, g a = .ok b ∧ q b)
        ∧ ((∃ part' ∈ parts', part'.Satisfied q)
          ↔ ∃ part ∈ parts, part.Satisfied fun a => ∃ b, g a = .ok b ∧ q b)
  | [], parts', h => by
      cases h
      simp
  | part :: rest, parts', h => by
      rw [traverseAll] at h
      cases hf : part.traverse g with
      | error e => rw [hf] at h; cases h
      | ok part' =>
          rw [hf] at h
          cases hr : traverseAll g rest with
          | error e => rw [hr] at h; cases h
          | ok rest' =>
              rw [hr] at h
              cases h
              obtain ⟨hall, hsome⟩ := satisfied_of_traverseAll (q := q) rest hr
              rw [List.forall_mem_cons, List.forall_mem_cons,
                List.exists_mem_cons_iff, List.exists_mem_cons_iff,
                satisfied_of_traverse part hf, hall, hsome]
              exact ⟨Iff.rfl, Iff.rfl⟩

end

end RecordFilter.Formula
