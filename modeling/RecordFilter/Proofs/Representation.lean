/-
Representation: a host may hold one scalar as one value or as another. Where
formats have no dates and no variants, texts stand for them, and a whole
number that is not negative may be signed or not. `LeafKind.Alike` lists
what is the same scalar of a kind; which of the two a record holds decides
nothing.

# Two records

Records are compared only along the steps of a path: `Slot.Corresponds`
says that what is read there has one shape, and that the values at the end
are related pair by pair. What the steps select is then related pair by
pair too (`Corresponds.selected`), and every test that suits the kind
answers alike on both (`Alike.accepts_eq`). No comparison can look at more.
-/
import Mathlib.Data.List.Forall2
import RecordFilter.Proofs.Reading

namespace RecordFilter

-- ================================================================ values

/-- Numbers compare alike if they are the same whole number. -/
theorem Number.compare?_congr {a b : Number} {z : Int} (ha : a.toInt? = some z)
    (hb : b.toInt? = some z) (m : Number) : a.compare? m = b.compare? m := by
  have hdouble : a.toBinary64 = b.toBinary64 := by
    cases a with
    | float x => cases ha
    | int _ | uint _ =>
        cases b with
        | float x => cases hb
        | int _ | uint _ =>
            obtain rfl := Option.some.inj ha
            exact congrArg Binary64.ofInt (Option.some.inj hb).symm
  rw [Number.compare?, Number.compare?, ha, hb, hdouble]

/-- Values that stand for the same scalar of a kind. -/
inductive LeafKind.Alike : LeafKind → Value → Value → Prop where
  | refl {kind : LeafKind} (v : Value) : Alike kind v v
  | symm {kind : LeafKind} {v w : Value} (h : Alike kind v w) : Alike kind w v
  | variant {variants : List String} (name : String) :
      Alike (.enum variants) (.variant name) (.text name)
  | moment {m : Calendar.Moment} {s : String}
      (h : Calendar.Moment.read? s.toList = some m) :
      Alike .dateTime (.dateTime m) (.text s)
  | whole {kind : LeafKind} {n : Int64} {k : UInt64}
      (hkind : kind.isNumeric = true) (h : n.toInt = (k.toNat : Int)) :
      Alike kind (.int n) (.uint k)

/-- A test that suits the kind answers alike. -/
theorem LeafKind.Alike.accepts_eq {kind : LeafKind} {v w : Value}
    (h : kind.Alike v w) {test : Test} (hsuits : test.suits kind = true) :
    test.accepts v = test.accepts w := by
  induction h with
  | refl => rfl
  | symm _ ih => exact (ih hsuits).symm
  | variant name =>
      cases test with
      | isNull | variantEquals _ | variantWithin _ _ _ => rfl
      | isBool _ | numberEquals _ | numberWithin _ _ | dateTimeEquals _
      | dateTimeWithin _ _ | textEquals _ | textStartsWith _
      | textEndsWith _ | textContains _ | otherEquals _ =>
          cases hsuits
  | @moment m s h =>
      have hmoment : (Value.dateTime m).dateTime? = (Value.text s).dateTime? :=
        h.symm
      cases test with
      | isNull => rfl
      | dateTimeEquals _ | dateTimeWithin _ _ =>
          rw [Test.accepts, Test.accepts, hmoment]
      | isBool _ | numberEquals _ | numberWithin _ _ | variantEquals _
      | variantWithin _ _ _ | textEquals _ | textStartsWith _
      | textEndsWith _ | textContains _ | otherEquals _ =>
          cases hsuits
  | @whole kind n k hkind h =>
      have hcompare :
          ∀ m, (Number.int n).compare? m = (Number.uint k).compare? m :=
        Number.compare?_congr (congrArg some h) rfl
      cases test with
      | numberEquals m => exact congrArg (· == some Ordering.eq) (hcompare m)
      | numberWithin bound m =>
          exact congrArg (Option.any bound.admits) (hcompare m)
      | otherEquals _ =>
          -- this one compares renderings, but is for no number
          obtain rfl : kind = .other := beq_iff_eq.mp hsuits
          cases hkind
      | isNull | isBool _ | variantEquals _ | variantWithin _ _ _
      | dateTimeEquals _ | dateTimeWithin _ _ | textEquals _
      | textStartsWith _ | textEndsWith _ | textContains _ =>
          rfl

-- ================================================================= slots

namespace Slot

/-- Slots of one shape along some steps: both missing, both collections of
one length, both values or both records, and so on with what is read next.
Values at the end of the steps are related. -/
inductive Corresponds (R : Value → Value → Prop) :
    List Step → Slot → Slot → Prop where
  | missing {steps : List Step} : Corresponds R steps .missing .missing
  | value {v w : Value} (h : R v w) : Corresponds R [] (.value v) (.value w)
  | early {step : Step} {rest : List Step} {v w : Value} :
      Corresponds R (step :: rest) (.value v) (.value w)
  | late {read read' : Record} :
      Corresponds R [] (.record read) (.record read')
  | record {step : Step} {rest : List Step} {read read' : Record}
      (h : Corresponds R rest ((read step.field).pick step.subscripts)
        ((read' step.field).pick step.subscripts)) :
      Corresponds R (step :: rest) (.record read) (.record read')
  | list {steps : List Step} {items items' : List Slot}
      (hlength : items.length = items'.length)
      (h : ∀ i (hi : i < items.length) (hi' : i < items'.length),
        Corresponds R steps items[i] items'[i]) :
      Corresponds R steps (.list items) (.list items')

namespace Corresponds

variable {R : Value → Value → Prop} {steps : List Step} {a b : Slot}

theorem index (h : Corresponds R steps a b) (i : UInt64) :
    Corresponds R steps (a.index i) (b.index i) := by
  cases h with
  | missing | value _ | early | late | record _ => exact .missing
  | @list _ items items' hlength h =>
      by_cases hi : i.toNat < items.length
      · have hi' : i.toNat < items'.length := hlength ▸ hi
        simpa [Slot.index, hi, hi'] using h i.toNat hi hi'
      · have hi' : ¬ i.toNat < items'.length := hlength ▸ hi
        simpa [Slot.index, hi, hi'] using Corresponds.missing

theorem pick (h : Corresponds R steps a b) (subscripts : List UInt64) :
    Corresponds R steps (a.pick subscripts) (b.pick subscripts) := by
  induction subscripts generalizing a b with
  | nil => exact h
  | cons i rest ih => exact ih (h.index i)

/-- Records whose fields correspond do, whatever is picked from them. -/
theorem fields {step : Step} {read read' : Record}
    (h : Corresponds R steps (read step.field) (read' step.field)) :
    Corresponds R (step :: steps) (.record read) (.record read') :=
  .record (h.pick step.subscripts)

/-- What is selected in slots that correspond is related, pair by pair. -/
theorem selected (h : Corresponds R steps a b) :
    List.Forall₂ R (a.selected steps) (b.selected steps) := by
  induction h with
  | missing =>
      rw [selected_missing]
      exact .nil
  | value h =>
      rw [selected_value, selected_value]
      exact .cons h .nil
  | early =>
      rw [selected_value_early, selected_value_early]
      exact .nil
  | late =>
      rw [selected_record_late, selected_record_late]
      exact .nil
  | record _ ih =>
      rw [selected_record, selected_record]
      exact ih
  | @list steps items items' hlength _ ih =>
      rw [selected_list, selected_list]
      have hitems : List.Forall₂
          (fun a b : Slot =>
            List.Forall₂ R (a.selected steps) (b.selected steps))
          items items' :=
        List.forall₂_iff_get.mpr ⟨hlength, ih⟩
      exact List.rel_flatMap hitems fun _ _ h => h

end Corresponds

end Slot

-- =========================================================== comparisons

/-- Related values that answer alike do so as a whole. -/
private theorem any_eq_of_forall₂ {α : Type} {R : α → α → Prop}
    {q : α → Bool} (hq : ∀ a b, R a b → q a = q b) {as bs : List α}
    (h : List.Forall₂ R as bs) :
    as.any q = bs.any q := by
  induction h with
  | nil => rfl
  | cons hab _ ih => rw [List.any_cons, List.any_cons, hq _ _ hab, ih]

namespace Comparison

/-- Decisions do not depend on representation. Of two records that differ,
along the path, only in how they hold the same scalars of the kind that the
path leads to, a comparison accepts both or neither. -/
theorem accepts_eq_of_corresponds {schema : Schema} {c : Comparison}
    {p : Predicate} (h : c.alone.compile schema = .ok p) {r : Resolution}
    {kind : LeafKind} (hresolved : schema.resolve? c.path.names = some r)
    (hscalar : r.terminal = .leaf kind) {record record' : Record}
    (hrecords : Slot.Corresponds kind.Alike (r.steps c.path)
      (.record record) (.record record')) :
    p.accepts record = p.accepts record' := by
  obtain ⟨r', kind', test, htyped, haccepts⟩ := exists_typed h
  obtain rfl := Option.some.inj (hresolved.symm.trans htyped.resolved)
  obtain rfl := Terminal.leaf.inj (hscalar.symm.trans htyped.scalar)
  have hsuits : test.suits kind = true := suits_of_test htyped.tested
  have hselected : ∀ record, schema.selected c.path record
      = (Slot.record record).selected (r.steps c.path) := by
    intro record
    rw [Schema.selected, hresolved]
    rfl
  have htest : ∀ v w, kind.Alike v w → test.accepts v = test.accepts w :=
    fun _ _ hvw => hvw.accepts_eq hsuits
  rw [haccepts, haccepts, hselected, hselected,
    any_eq_of_forall₂ htest hrecords.selected]

/-- A status is a variant in one record and a text in the other, in the leg
that is picked; what stands in the next one does not matter. -/
theorem accepts_eq_of_corresponds_legs :
    ∃ p,
      (alone ⟨⟨[⟨"legs", [0]⟩, ⟨"status", []⟩]⟩, .atLeast, .bare "DONE",
        .enum ["open", "done"]⟩).compile
          ⟨"Trip", [.records "legs"
            ⟨"Leg", [.enumeration "status" ["open", "done"]]⟩]⟩ = .ok p
      ∧ p.accepts
        (fun _ => .list [.record fun _ => .value (.variant "Done"), .missing])
        = p.accepts (fun _ => .list
          [.record fun _ => .value (.text "Done"), .value .null]) := by
  have hcompile :
      (alone ⟨⟨[⟨"legs", [0]⟩, ⟨"status", []⟩]⟩, .atLeast, .bare "DONE",
        .enum ["open", "done"]⟩).compile
          ⟨"Trip", [.records "legs"
            ⟨"Leg", [.enumeration "status" ["open", "done"]]⟩]⟩
        = .ok _ := rfl
  refine ⟨_, hcompile, accepts_eq_of_corresponds hcompile rfl rfl ?_⟩
  refine .record (.fields ?_)
  exact .value (.variant "Done")

end Comparison

end RecordFilter
