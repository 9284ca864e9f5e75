/-
Formulas: conjunctions and disjunctions of atoms, to any depth. What is
asked of a record and what is compiled from it have the same shape and
differ in their atoms, so that evaluation and compilation are one traversal
each.
-/
namespace RecordFilter

/-- A formula over atoms. -/
inductive Formula (α : Type) where
  | atom (a : α)
  | all (parts : List (Formula α))
  | any (parts : List (Formula α))

namespace Formula

variable {α β ε : Type}

mutual

/-- Whether a formula holds when its atoms are decided by `p`. Of no parts,
all hold and none does. -/
def holds (p : α → Bool) : Formula α → Bool
  | atom a => p a
  | all parts => allHold p parts
  | any parts => someHolds p parts
termination_by structural f => f

/-- Whether each of some formulas holds. -/
def allHold (p : α → Bool) : List (Formula α) → Bool
  | [] => true
  | part :: rest => part.holds p && allHold p rest
termination_by structural parts => parts

/-- Whether one of some formulas holds. -/
def someHolds (p : α → Bool) : List (Formula α) → Bool
  | [] => false
  | part :: rest => part.holds p || someHolds p rest
termination_by structural parts => parts

end

mutual

/-- The atoms from left to right. -/
def atoms : Formula α → List α
  | atom a => [a]
  | all parts => atomsOf parts
  | any parts => atomsOf parts
termination_by structural f => f

/-- The atoms of some formulas from left to right. -/
def atomsOf : List (Formula α) → List α
  | [] => []
  | part :: rest => part.atoms ++ atomsOf rest
termination_by structural parts => parts

end

mutual

/-- Replaces each atom, from left to right, up to the first that fails. -/
def traverse (f : α → Except ε β) : Formula α → Except ε (Formula β)
  | atom a => (f a).map atom
  | all parts => (traverseAll f parts).map all
  | any parts => (traverseAll f parts).map any
termination_by structural formula => formula

/-- Replaces each atom of some formulas. -/
def traverseAll (f : α → Except ε β) :
    List (Formula α) → Except ε (List (Formula β))
  | [] => .ok []
  | part :: rest =>
    match part.traverse f with
    | .error e => .error e
    | .ok part =>
      match traverseAll f rest with
      | .error e => .error e
      | .ok rest => .ok (part :: rest)
termination_by structural parts => parts

end

mutual

/-- A formula as text: the parts of a conjunction in parentheses, those of a
disjunction without. -/
def render (atomText : α → String) : Formula α → String
  | atom a => atomText a
  | all parts =>
    " AND ".intercalate (renderAll (fun s => "(" ++ s ++ ")") atomText parts)
  | any parts => " OR ".intercalate (renderAll id atomText parts)
termination_by structural f => f

/-- The texts of some formulas. -/
def renderAll (around : String → String) (atomText : α → String) :
    List (Formula α) → List String
  | [] => []
  | part :: rest =>
    around (part.render atomText) :: renderAll around atomText rest
termination_by structural parts => parts

end

end Formula

end RecordFilter
