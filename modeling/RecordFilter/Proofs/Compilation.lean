/-
Compilation of formulas, as a function of what their comparisons compile to
alone. A comparison alone is a formula of one atom; whether it compiles,
with which error, and which records it accepts is all that compilation and
evaluation of a larger formula depend on. Formulas are arbitrary here:
nested to any depth, with empty conjunctions and disjunctions, or a bare
atom.

# What is shown

- `failure?_compile`: an expression fails to compile with the error of its
  first comparison, from left to right, that fails alone.
- `accepts_of_compile`: a formula that compiles accepts the records that
  satisfy it, a comparison being satisfied where it accepts alone.

The last theorem puts the two together, beside the rendered expression.
-/
import RecordFilter.Predicate
import RecordFilter.Proofs.Formula

namespace RecordFilter

open Formula (failure? failure?_eq_some_iff failure?_eq_none_iff)

variable {schema : Schema} {record : Record}

-- ====================================================== one comparison

namespace Comparison

/-- The expression that is one comparison and nothing else. -/
def alone (c : Comparison) : Expression := .formula (.atom c)

/-- Acceptance of a record by a comparison alone, which has to compile for
it. -/
def Accepts (schema : Schema) (record : Record) (c : Comparison) : Prop :=
  ∃ p, c.alone.compile schema = .ok p ∧ p.accepts record = true

theorem compile_alone (schema : Schema) (c : Comparison) :
    c.alone.compile schema
      = (c.compile schema).map fun check =>
        .restricted (.atom check) c.render := by
  rw [alone, Expression.compile, Formula.traverse]
  cases c.compile schema <;> rfl

@[simp] theorem failure?_compile_alone (schema : Schema) (c : Comparison) :
    failure? (c.alone.compile schema) = failure? (c.compile schema) := by
  rw [compile_alone, Formula.failure?_map]

/-- The check of a comparison decides which records it accepts. -/
theorem accepts_iff {c : Comparison} :
    c.Accepts schema record
      ↔ ∃ check,
        c.compile schema = .ok check ∧ check.accepts record = true := by
  unfold Accepts
  rw [compile_alone]
  cases c.compile schema with
  | error e =>
      constructor
      · rintro ⟨p, hp, -⟩
        cases hp
      · rintro ⟨check, hcheck, -⟩
        cases hcheck
  | ok check =>
      constructor
      · rintro ⟨p, hp, haccepts⟩
        cases hp
        refine ⟨check, rfl, ?_⟩
        rwa [Predicate.accepts, Formula.holds] at haccepts
      · rintro ⟨check', hcheck, haccepts⟩
        cases hcheck
        refine ⟨_, rfl, ?_⟩
        rwa [Predicate.accepts, Formula.holds]

end Comparison

-- ======================================================== all formulas

namespace Expression

/-- The error of an expression is that of its first comparison that fails. -/
theorem failure?_compile (schema : Schema) (e : Expression) :
    failure? (e.compile schema) = e.comparisons.findSome? fun c =>
      failure? (c.compile schema) := by
  cases e with
  | empty => rfl
  | formula f =>
      rw [compile, Formula.failure?_map, Formula.failure?_traverse]
      rfl

/-- A formula never compiles to the predicate that restricts nothing. -/
theorem restricted_of_compile {f : Formula Comparison} {p : Predicate}
    (h : (formula f).compile schema = .ok p) :
    ∃ compiled, f.traverse (Comparison.compile schema) = .ok compiled
      ∧ p = .restricted compiled (formula f).render := by
  rw [compile] at h
  cases ht : f.traverse (Comparison.compile schema) with
  | error e => rw [ht] at h; cases h
  | ok compiled =>
      rw [ht] at h
      cases h
      exact ⟨compiled, rfl, rfl⟩

/-- What a formula compiles to accepts the records that satisfy it. -/
theorem accepts_of_compile {f : Formula Comparison} {p : Predicate}
    (h : (formula f).compile schema = .ok p) (record : Record) :
    p.accepts record = true
      ↔ f.Satisfied (Comparison.Accepts schema record) := by
  obtain ⟨compiled, hcompiled, rfl⟩ := restricted_of_compile h
  have hatoms : Comparison.Accepts schema record
      = fun c => ∃ check,
        c.compile schema = .ok check ∧ check.accepts record = true :=
    funext fun c => propext Comparison.accepts_iff
  rw [Predicate.accepts, Formula.holds_iff, hatoms]
  exact Formula.satisfied_of_traverse f hcompiled

/-- An expression compiles if each of its comparisons does alone. -/
theorem exists_compile_iff (schema : Schema) (e : Expression) :
    (∃ p, e.compile schema = .ok p)
      ↔ ∀ c ∈ e.comparisons, ∃ q, c.alone.compile schema = .ok q := by
  rw [← failure?_eq_none_iff, failure?_compile, List.findSome?_eq_none_iff]
  simp only [← failure?_eq_none_iff, Comparison.failure?_compile_alone]

/-- The error of an expression is that of its first comparison that fails
alone. -/
theorem compile_eq_error_iff {e : Expression} {error : CompileError} :
    e.compile schema = .error error
      ↔ ∃ before c after, e.comparisons = before ++ c :: after
        ∧ (∀ b ∈ before, ∃ p, b.alone.compile schema = .ok p)
        ∧ c.alone.compile schema = .error error := by
  rw [← failure?_eq_some_iff, failure?_compile, List.findSome?_eq_some_iff]
  simp only [← failure?_eq_some_iff, ← failure?_eq_none_iff,
    Comparison.failure?_compile_alone, and_comm]

/-- Compilation of any formula, in terms of its comparisons alone. It fails
exactly if one of them does, and then with the error of the first, from left
to right. Otherwise it makes a restriction that carries the rendered formula
and accepts the records that satisfy it. -/
theorem compile_formula (schema : Schema) (f : Formula Comparison) :
    ((∃ error, (formula f).compile schema = .error error)
        ↔ ∃ c ∈ f.atoms, ∃ error, c.alone.compile schema = .error error)
      ∧ (∀ error, (formula f).compile schema = .error error
        ↔ ∃ before c after, f.atoms = before ++ c :: after
          ∧ (∀ b ∈ before, ∃ p, b.alone.compile schema = .ok p)
          ∧ c.alone.compile schema = .error error)
      ∧ ((∀ c ∈ f.atoms, ∃ q, c.alone.compile schema = .ok q) →
        ∃ p, (formula f).compile schema = .ok p
          ∧ p.isUnrestricted = false
          ∧ p.expression? = some (formula f).render
          ∧ ∀ record, p.accepts record = true
            ↔ f.Satisfied (Comparison.Accepts schema record)) := by
  have hatoms : (formula f).comparisons = f.atoms := rfl
  refine ⟨?_, ?_, ?_⟩
  · simp only [← failure?_eq_some_iff, ← Option.isSome_iff_exists]
    rw [failure?_compile, List.findSome?_isSome_iff, hatoms]
    simp only [Comparison.failure?_compile_alone]
  · intro error
    rw [compile_eq_error_iff, hatoms]
  · intro h
    obtain ⟨p, hp⟩ := (exists_compile_iff schema (formula f)).mpr h
    obtain ⟨compiled, -, rfl⟩ := restricted_of_compile hp
    exact ⟨_, hp, rfl, rfl, accepts_of_compile hp⟩

/-- A choice that a builder never makes: of a conjunction of one, and of
nothing. -/
theorem compile_formula_nested :
    ∃ p,
      (formula (.any
        [.all [.atom ⟨⟨[⟨"Done", []⟩]⟩, .equal, .bare "TRUE", .bool⟩],
          .any []])).compile ⟨"Trip", [.scalar .bool "done"]⟩ = .ok p
      ∧ p.isUnrestricted = false := by
  obtain ⟨p, hp, hrestricted, -⟩ :=
    (compile_formula ⟨"Trip", [.scalar .bool "done"]⟩
      (.any [.all [.atom ⟨⟨[⟨"Done", []⟩]⟩, .equal, .bare "TRUE", .bool⟩],
        .any []])).2.2 (by
      intro c hc
      obtain rfl := List.mem_singleton.mp hc
      exact ⟨_, rfl⟩)
  exact ⟨p, hp, hrestricted⟩

end Expression

end RecordFilter
