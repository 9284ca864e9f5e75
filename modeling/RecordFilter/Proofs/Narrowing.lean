/-
What one more subscript does to a path. It picks an item of what is read at
its segment, so that the path selects less than it did; and where all that
is read there are collections, the items are all there is, so that the
subscripts between them select what the path selected.

# What is read at a segment

`Slot.reads` stops where a segment's own subscripts have been applied and
before the collection that may stand there is looked through. There may be
many such slots, for each of the ways through collections further up, and
what a path selects is what the rest of it selects in each
(`selected_append`). One more subscript picks an item of each of them
(`reads_subscripted`), the same one everywhere; where their lengths differ
it is beyond the end of some, and selects nothing there.

A slot that is no collection has no items. So of a scalar or a record any
further subscript leaves nothing, and a path that reads one is not the union
of its subscripted reads.
-/
import RecordFilter.Proofs.Reading

namespace RecordFilter

-- ================================================================= slots

namespace Slot

/-- The slots that are read where some steps end. -/
def reads : List Step → Slot → List Slot
  | [], slot => [slot]
  | step :: rest, slot =>
    slot.elements.flatMap fun
      | .record read => reads rest ((read step.field).pick step.subscripts)
      | _ => []

/-- A collection whose items can all be picked, or nothing. -/
def IsCollection (slot : Slot) : Prop :=
  slot = .missing ∨ ∃ items, slot = .list items ∧ items.length < UInt64.size

variable {steps : List Step} {slot : Slot} {v : Value}

theorem reads_append (front behind : List Step) (slot : Slot) :
    slot.reads (front ++ behind)
      = (slot.reads front).flatMap fun s => s.reads behind := by
  induction front generalizing slot with
  | nil => rw [List.nil_append, reads, List.flatMap_singleton]
  | cons step rest ih =>
      rw [List.cons_append, reads, reads, List.flatMap_assoc]
      congr 1
      funext element
      cases element with
      | record read => exact ih _
      | value _ | list _ | missing => rfl

/-- What steps select is what the last of them select in the slots that the
first ones read. -/
theorem selected_append (front behind : List Step) (slot : Slot) :
    slot.selected (front ++ behind)
      = (slot.reads front).flatMap fun s => s.selected behind := by
  induction front generalizing slot with
  | nil => rw [List.nil_append, reads, List.flatMap_singleton]
  | cons step rest ih =>
      rw [List.cons_append, selected, reads, List.flatMap_assoc]
      congr 1
      funext element
      cases element with
      | record read => exact (selected_pick _ _ _).symm.trans (ih _)
      | value _ | list _ | missing => rfl

/-- One more subscript picks an item of each slot that is read. -/
theorem reads_subscripted (front : List Step) (step : Step) (i : UInt64)
    (slot : Slot) :
    slot.reads (front ++ [{ step with subscripts := step.subscripts ++ [i] }])
      = (slot.reads (front ++ [step])).map fun s => s.index i := by
  rw [reads_append, reads_append, List.map_flatMap]
  congr 1
  funext s
  rw [reads, reads, List.map_flatMap]
  congr 1
  funext element
  cases element with
  | record read => simp [reads, pick, List.foldl_append]
  | value _ | list _ | missing => rfl

/-- An item selects no more than its collection. -/
theorem mem_selected_of_index {i : UInt64}
    (h : v ∈ (slot.index i).selected steps) :
    v ∈ slot.selected steps := by
  cases slot with
  | list items =>
      by_cases hi : i.toNat < items.length
      · have hitem : (Slot.list items).index i = items[i.toNat] := by
          simp [index, hi]
        rw [hitem] at h
        rw [selected_list, List.mem_flatMap]
        exact ⟨_, List.getElem_mem hi, h⟩
      · have hnone : (Slot.list items).index i = .missing := by
          simp [index, hi]
        rw [hnone, selected_missing] at h
        cases h
  | value _ | record _ | missing =>
      rw [index, selected_missing] at h
      cases h

/-- What a collection selects some item of it selects. -/
theorem exists_mem_selected_index (hslot : slot.IsCollection)
    (h : v ∈ slot.selected steps) :
    ∃ i : UInt64, v ∈ (slot.index i).selected steps := by
  rcases hslot with rfl | ⟨items, rfl, hlength⟩
  · rw [selected_missing] at h
    cases h
  · rw [selected_list, List.mem_flatMap] at h
    obtain ⟨item, hitem, hv⟩ := h
    obtain ⟨n, hn, rfl⟩ := List.mem_iff_getElem.mp hitem
    have hword : (UInt64.ofNat n).toNat = n := by
      rw [UInt64.toNat_ofNat']
      exact Nat.mod_eq_of_lt (Nat.lt_trans hn hlength)
    refine ⟨UInt64.ofNat n, ?_⟩
    rw [index, hword, List.getElem?_eq_getElem hn, Option.getD_some]
    exact hv

end Slot

-- ================================================================= paths

/-- The path with one more subscript on the segment at a position. -/
def Path.subscripted (path : Path) (k : Nat) (i : UInt64) : Path :=
  ⟨path.segments.modify k fun segment =>
    { segment with subscripts := segment.subscripts ++ [i] }⟩

/-- A subscript changes no name, so that the path resolves as before. -/
theorem Path.names_subscripted (path : Path) (k : Nat) (i : UInt64) :
    (path.subscripted k i).names = path.names := by
  obtain ⟨segments⟩ := path
  rw [Path.names, Path.names, subscripted]
  dsimp only
  induction segments generalizing k with
  | nil => rw [List.modify_nil]
  | cons segment rest ih =>
      cases k with
      | zero => rfl
      | succ k => rw [List.modify_succ_cons, List.map_cons, List.map_cons, ih]

/-- Of the steps of a path, the one with the new subscript picks from what it
picked before. -/
theorem Resolution.steps_subscripted (r : Resolution) (path : Path) (k : Nat)
    (i : UInt64) :
    r.steps (path.subscripted k i)
      = (r.steps path).modify k fun step =>
        { step with subscripts := step.subscripts ++ [i] } := by
  obtain ⟨segments⟩ := path
  rw [steps, steps, Path.subscripted]
  dsimp only
  generalize r.fields = fields
  induction segments generalizing k fields with
  | nil => simp
  | cons segment rest ih =>
      cases fields with
      | nil => simp
      | cons field fields =>
          cases k with
          | zero => rfl
          | succ k =>
              rw [List.modify_succ_cons, List.zipWith_cons_cons,
                List.zipWith_cons_cons, List.modify_succ_cons, ih]

namespace Schema

variable {schema : Schema} {path : Path} {k : Nat} {record : Record}
  {v : Value}

/-- The slots that a path reads at the segment at a position, with the
subscripts that stand there applied. -/
def reads (schema : Schema) (path : Path) (k : Nat) (record : Record) :
    List Slot :=
  (schema.resolve? path.names).elim [] fun r =>
    (Slot.record record).reads ((r.steps path).take (k + 1))

/-- What a path selects is selected in the slots that it reads at a segment,
and with one more subscript there in one item of each. -/
theorem exists_selected_eq (schema : Schema) (hk : k < path.segments.length)
    (record : Record) :
    ∃ behind, schema.selected path record
        = ((schema.reads path k record).flatMap fun slot =>
          slot.selected behind)
      ∧ ∀ i, schema.selected (path.subscripted k i) record
        = (schema.reads path k record).flatMap fun slot =>
          (slot.index i).selected behind := by
  unfold Schema.selected Schema.reads
  cases hresolved : schema.resolve? path.names with
  | none =>
      refine ⟨[], rfl, fun i => ?_⟩
      rw [Path.names_subscripted, hresolved]
      rfl
  | some r =>
      have hlength : k < (r.steps path).length := by
        have hfields := Resolution.length_fields hresolved
        rw [Resolution.steps, List.length_zipWith]
        omega
      have htake : (r.steps path).take (k + 1)
          = (r.steps path).take k ++ [(r.steps path)[k]] :=
        (List.take_append_getElem hlength).symm
      -- a cut behind the segment: the steps there do not know the subscript
      refine ⟨(r.steps path).drop (k + 1), ?_, fun i => ?_⟩
      · rw [Option.elim_some, Option.elim_some, ← Slot.selected_append,
          List.take_append_drop]
      · have hmodified : r.steps (path.subscripted k i)
            = ((r.steps path).take k ++ [{ (r.steps path)[k] with
                subscripts := (r.steps path)[k].subscripts ++ [i] }])
              ++ (r.steps path).drop (k + 1) := by
          rw [Resolution.steps_subscripted,
            List.modify_eq_take_cons_drop hlength, List.append_assoc,
            List.singleton_append]
        rw [Path.names_subscripted, hresolved, Option.elim_some,
          Option.elim_some, htake, hmodified, Slot.selected_append,
          Slot.reads_subscripted, List.flatMap_map]

theorem mem_selected_of_subscripted (hk : k < path.segments.length)
    {i : UInt64} (h : v ∈ schema.selected (path.subscripted k i) record) :
    v ∈ schema.selected path record := by
  obtain ⟨behind, hpath, hsubscripted⟩ := exists_selected_eq schema hk record
  rw [hsubscripted, List.mem_flatMap] at h
  obtain ⟨slot, hslot, hv⟩ := h
  rw [hpath, List.mem_flatMap]
  exact ⟨slot, hslot, Slot.mem_selected_of_index hv⟩

/-- Where all that is read are collections, what is selected is selected under
some subscript. -/
theorem exists_mem_selected_subscripted (hk : k < path.segments.length)
    (hreads : ∀ slot ∈ schema.reads path k record, slot.IsCollection)
    (h : v ∈ schema.selected path record) :
    ∃ i : UInt64, v ∈ schema.selected (path.subscripted k i) record := by
  obtain ⟨behind, hpath, hsubscripted⟩ := exists_selected_eq schema hk record
  rw [hpath, List.mem_flatMap] at h
  obtain ⟨slot, hslot, hv⟩ := h
  obtain ⟨i, hi⟩ := Slot.exists_mem_selected_index (hreads slot hslot) hv
  refine ⟨i, ?_⟩
  rw [hsubscripted, List.mem_flatMap]
  exact ⟨slot, hslot, hi⟩

end Schema

-- =========================================================== comparisons

namespace Comparison

variable {schema : Schema} {c : Comparison} {p : Predicate} {k : Nat}

/-- The comparison with one more subscript in its path. -/
def subscripted (c : Comparison) (k : Nat) (i : UInt64) : Comparison :=
  c.withPath (c.path.subscripted k i)

/-- One more subscript only narrows what a comparison accepts, and over
collections the subscripts together leave nothing out. An inequality goes
the other way: it accepts what it accepted, and maybe more. -/
theorem accepts_subscripted (h : c.alone.compile schema = .ok p)
    (hk : k < c.path.segments.length) :
    (∀ i, ∃ q, (c.subscripted k i).alone.compile schema = .ok q)
      ∧ (c.operator ≠ .notEqual →
        (∀ i record, (c.subscripted k i).Accepts schema record →
          c.Accepts schema record)
        ∧ ∀ record,
          (∀ slot ∈ schema.reads c.path k record, slot.IsCollection) →
          (c.Accepts schema record
            ↔ ∃ i, (c.subscripted k i).Accepts schema record))
      ∧ (c.operator = .notEqual → ∀ i record,
        c.Accepts schema record →
          (c.subscripted k i).Accepts schema record) := by
  obtain ⟨r, kind, test, htyped, -⟩ := exists_typed h
  have hsubscripted : ∀ i, (c.subscripted k i).Typed schema r kind test := by
    intro i
    refine htyped.withPath ?_
    rw [Path.names_subscripted]
    exact htyped.resolved
  refine ⟨?_, ?_, ?_⟩
  · intro i
    rw [compile_alone,
      compile_eq_ok_iff.mpr ⟨r, kind, test, hsubscripted i, rfl⟩]
    exact ⟨_, rfl⟩
  · intro hoperator
    have hnarrow : ∀ i record, (c.subscripted k i).Accepts schema record →
        c.Accepts schema record := by
      intro i record haccepts
      obtain ⟨v, hv, hpasses⟩ :=
        ((hsubscripted i).accepts_iff_exists hoperator record).mp haccepts
      rw [htyped.accepts_iff_exists hoperator]
      exact ⟨v, Schema.mem_selected_of_subscripted hk hv, hpasses⟩
    refine ⟨hnarrow, fun record hreads => ⟨fun haccepts => ?_, ?_⟩⟩
    · obtain ⟨v, hv, hpasses⟩ :=
        (htyped.accepts_iff_exists hoperator record).mp haccepts
      obtain ⟨i, hi⟩ := Schema.exists_mem_selected_subscripted hk hreads hv
      exact ⟨i, ((hsubscripted i).accepts_iff_exists hoperator record).mpr
        ⟨v, hi, hpasses⟩⟩
    · rintro ⟨i, haccepts⟩
      exact hnarrow i record haccepts
  · intro hoperator i record haccepts
    rw [htyped.accepts_iff_forall hoperator] at haccepts
    rw [(hsubscripted i).accepts_iff_forall hoperator]
    intro v hv
    exact haccepts v (Schema.mem_selected_of_subscripted hk hv)

/-- One leg is not recorded and the other is in a list of its own; some
subscript on the legs finds it. -/
theorem accepts_subscripted_legs :
    ∃ i, Accepts
      ⟨"Trip", [.records "legs" ⟨"Leg", [.nullableScalar .text "status"]⟩]⟩
      (fun asked =>
        if asked = "legs" then
          .list [.missing, .list [.record fun _ => .value (.text "Done")]]
        else .missing)
      (subscripted
        ⟨⟨[⟨"Legs", []⟩, ⟨"status", []⟩]⟩, .equal, .quoted "done", .text⟩
        0 i) := by
  have hcompile :
      (alone ⟨⟨[⟨"Legs", []⟩, ⟨"status", []⟩]⟩, .equal, .quoted "done",
        .text⟩).compile
          ⟨"Trip", [.records "legs" ⟨"Leg", [.nullableScalar .text "status"]⟩]⟩
        = .ok _ := rfl
  obtain ⟨-, hpositive, -⟩ := accepts_subscripted hcompile Nat.zero_lt_two
  obtain ⟨-, hunion⟩ := hpositive nofun
  refine (hunion _ ?_).mp ⟨_, hcompile, rfl⟩
  intro slot hslot
  obtain rfl := List.mem_singleton.mp hslot
  exact .inr ⟨_, rfl, by decide⟩

end Comparison

end RecordFilter
