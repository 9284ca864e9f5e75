/-
What a comparison reads in a record. A path selects values, whatever is
asked of them; a comparison accepts if some selected value passes its test,
an inequality if none passes the test of the equality.

# The selection

`Schema.selected` resolves the path, takes one step for each of its
segments (`map_field_steps`, `map_subscripts_steps`) and hands on what the
steps select. The operator and the literal are no arguments of it, so that
two comparisons of one path read the same values and can differ only in
their tests.

# Null

A value that is null passes no test but the one for null, and that test is
made for the literal null alone. So where a path selects nothing but null,
every comparison with another literal gives the same answer as where it
selects nothing at all: an inequality accepts, any other refuses.
-/
import RecordFilter.Proofs.Compilation
import RecordFilter.Proofs.Route
import RecordFilter.Selection

namespace RecordFilter

-- ============================================================= selection

/-- The values that a path selects in a record. -/
def Schema.selected (schema : Schema) (path : Path) (record : Record) :
    List Value :=
  (schema.resolve? path.names).elim [] fun r =>
    (Slot.record record).selected (r.steps path)

namespace Comparison

variable {schema : Schema} {c : Comparison} {r : Resolution} {kind : LeafKind}
  {test : Test} {p : Predicate}

/-- Alone, a comparison accepts if some selected value passes its test; an
inequality if not. -/
theorem Typed.accepts_check (h : c.Typed schema r kind test)
    (record : Record) :
    (⟨r.steps c.path, test, c.operator == .notEqual⟩ : Check).accepts record
      = ((schema.selected c.path record).any test.accepts
        != (c.operator == .notEqual)) := by
  rw [Check.accepts, Slot.anyValue_eq, Schema.selected, h.resolved]
  rfl

/-- A comparison that compiles alone is typed, and its predicate answers by
its test and the selection. -/
theorem exists_typed (h : c.alone.compile schema = .ok p) :
    ∃ r kind test, c.Typed schema r kind test
      ∧ ∀ record, p.accepts record
        = ((schema.selected c.path record).any test.accepts
          != (c.operator == .notEqual)) := by
  rw [compile_alone] at h
  cases hcheck : c.compile schema with
  | error e => rw [hcheck] at h; cases h
  | ok check =>
      rw [hcheck] at h
      cases h
      obtain ⟨r, kind, test, htyped, rfl⟩ := compile_eq_ok_iff.mp hcheck
      refine ⟨r, kind, test, htyped, fun record => ?_⟩
      rw [Predicate.accepts, Formula.holds, htyped.accepts_check]

theorem Typed.accepts_iff (h : c.Typed schema r kind test) (record : Record) :
    c.Accepts schema record
      ↔ ((schema.selected c.path record).any test.accepts
        != (c.operator == .notEqual)) = true := by
  rw [Comparison.accepts_iff, compile_eq_ok_iff.mpr ⟨r, kind, test, h, rfl⟩]
  constructor
  · intro haccepts
    obtain ⟨check, hcheck, haccepts⟩ := haccepts
    cases hcheck
    rwa [h.accepts_check] at haccepts
  · intro haccepts
    refine ⟨_, rfl, ?_⟩
    rwa [h.accepts_check]

/-- Any other comparison than an inequality asks for a value that passes. -/
theorem Typed.accepts_iff_exists (h : c.Typed schema r kind test)
    (hoperator : c.operator ≠ .notEqual) (record : Record) :
    c.Accepts schema record
      ↔ ∃ v ∈ schema.selected c.path record, test.accepts v = true := by
  have hpositive : (c.operator == .notEqual) = false :=
    beq_eq_false_iff_ne.mpr hoperator
  rw [h.accepts_iff, hpositive, Bool.bne_false, List.any_eq_true]

/-- An inequality asks that there be none. -/
theorem Typed.accepts_iff_forall (h : c.Typed schema r kind test)
    (hoperator : c.operator = .notEqual) (record : Record) :
    c.Accepts schema record
      ↔ ∀ v ∈ schema.selected c.path record, ¬ test.accepts v = true := by
  have hnegative : (c.operator == .notEqual) = true := beq_iff_eq.mpr hoperator
  rw [h.accepts_iff, hnegative, Bool.bne_true, Bool.not_eq_true',
    List.any_eq_false]

/-- Reading is existential. Each segment of the path is a step, by the
declared name and its own subscripts. A comparison accepts the records in
which some selected value passes its test, an inequality those in which
none passes the test of the equality. Null passes the test for null alone,
and with another literal it counts for nothing. -/
theorem accepts_iff_selected (h : c.alone.compile schema = .ok p) :
    ∃ r kind test, c.Typed schema r kind test
      ∧ (r.steps c.path).map Step.field = r.fields
      ∧ (r.steps c.path).map Step.subscripts
        = c.path.segments.map Segment.subscripts
      ∧ (c.operator ≠ .notEqual → ∀ record,
        (p.accepts record = true
          ↔ ∃ v ∈ schema.selected c.path record, test.accepts v = true))
      ∧ (c.operator = .notEqual → c.affirmed.Typed schema r kind test
        ∧ ∀ record, (p.accepts record = true
          ↔ ∀ v ∈ schema.selected c.path record, ¬ test.accepts v = true))
      ∧ (∀ other : Test, other.accepts .null = true ↔ other = .isNull)
      ∧ (c.literal ≠ .null →
        ∀ record, (∀ v ∈ schema.selected c.path record, v = .null) →
        (p.accepts record = true ↔ c.operator = .notEqual)) := by
  obtain ⟨r, kind, test, htyped, haccepts⟩ := exists_typed h
  refine ⟨r, kind, test, htyped, Resolution.map_field_steps htyped.resolved,
    Resolution.map_subscripts_steps htyped.resolved, ?_, ?_, Test.accepts_null,
    ?_⟩
  · intro hoperator record
    rw [haccepts, ← htyped.accepts_iff]
    exact htyped.accepts_iff_exists hoperator record
  · intro hoperator
    refine ⟨htyped.affirmed hoperator, fun record => ?_⟩
    rw [haccepts, ← htyped.accepts_iff]
    exact htyped.accepts_iff_forall hoperator record
  · intro hliteral record hnull
    have htest : test ≠ .isNull := fun htest =>
      hliteral ((test_eq_isNull_iff htyped.tested).mp htest)
    -- then it is as if nothing were selected
    have hnone : (schema.selected c.path record).any test.accepts = false := by
      rw [List.any_eq_false]
      intro v hv
      rw [hnull v hv, Test.accepts_null]
      exact htest
    rw [haccepts, hnone, Bool.false_bne, beq_iff_eq]

/-- The second leg of a trip counts and no other, if there are legs to count
and a second among them. That it has no status makes no difference. -/
theorem accepts_iff_selected_legs :
    ∃ p, (alone ⟨⟨[⟨"Trips", []⟩, ⟨"Legs", [1]⟩, ⟨"status", []⟩]⟩, .equal,
        .quoted "done", .text⟩).compile
          ⟨"Plan", [.records "trips" ⟨"Trip", [.records "legs" ⟨"Leg",
            [.nullableScalar .text "status"]⟩]⟩]⟩ = .ok p
      ∧ p.accepts (fun _ => .list [.record fun _ => .list
          [.record fun _ => .value (.text "open"),
            .record fun _ => .value (.text "done")]]) = true
      ∧ p.accepts (fun _ => .list
          [.record fun _ => .list [.record fun _ => .value (.text "done"),
            .record fun _ => .value .null],
          .record fun _ => .list [.record fun _ => .value (.text "done")],
          .record fun _ => .record fun _ => .value (.text "done")])
        = false := by
  refine ⟨_, rfl, ?_⟩
  have hcompile : (alone ⟨⟨[⟨"Trips", []⟩, ⟨"Legs", [1]⟩, ⟨"status", []⟩]⟩,
      .equal, .quoted "done", .text⟩).compile
        ⟨"Plan", [.records "trips" ⟨"Trip", [.records "legs" ⟨"Leg",
          [.nullableScalar .text "status"]⟩]⟩]⟩ = .ok _ := rfl
  obtain ⟨r, kind, test, ⟨hresolved, hscalar, htested⟩, -, -, hpositive, -, -,
      hnull⟩ :=
    accepts_iff_selected hcompile
  cases hresolved
  cases hscalar
  cases htested
  constructor
  · exact (hpositive nofun _).mpr
      ⟨.text "done", List.mem_singleton.mpr rfl, by decide⟩
  · rw [Bool.eq_false_iff]
    intro haccepts
    refine absurd ((hnull nofun _ ?_).mp haccepts) nofun
    intro v hv
    exact List.mem_singleton.mp hv

end Comparison

end RecordFilter
