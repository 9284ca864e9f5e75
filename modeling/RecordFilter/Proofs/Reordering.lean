/-
Schemas that differ in the order in which their fields are declared. Fields
may change places in every field list, in those of nested schemas as much as
in the outermost; apart from that the schemas are the same.

A look-up takes the first field that matches, so that with two fields of one
name their order would decide. Validity rules this out at every depth, and is
itself untouched by the order (`Schema.Reordered.valid`). Between valid
schemas, names therefore lead from field to counterpart, step by step down a
path, and it does not matter how they are spelled on either side
(`Schema.Reordered.resolve?`).
-/
import Mathlib.Data.List.Forall2
import RecordFilter.Proofs.Validity

namespace RecordFilter

-- ============================================================ reordering

mutual

/-- Kinds that differ in the order in which nested fields are declared. -/
inductive FieldKind.Reordered : FieldKind → FieldKind → Prop where
  | leaf (kind : LeafKind) : FieldKind.Reordered (.leaf kind) (.leaf kind)
  | record {schema schema' : Schema} (h : Schema.Reordered schema schema') :
      FieldKind.Reordered (.record schema) (.record schema')
  | list {element element' : FieldKind}
      (h : FieldKind.Reordered element element') :
      FieldKind.Reordered (.list element) (.list element')

/-- Fields that differ within their kinds. -/
inductive Field.Reordered : Field → Field → Prop where
  | mk {name : String} {kind kind' : FieldKind} {nullable : Bool}
      (h : FieldKind.Reordered kind kind') :
      Field.Reordered ⟨name, kind, nullable⟩ ⟨name, kind', nullable⟩

/-- Schemas that differ in the order in which fields are declared, here or
further in. -/
inductive Schema.Reordered : Schema → Schema → Prop where
  | mk {name : String} {fields fields' same : List Field}
      (h : List.Forall₂ Field.Reordered fields same)
      (hperm : same.Perm fields') :
      Schema.Reordered ⟨name, fields⟩ ⟨name, fields'⟩

end

/-- What names lead to, up to the order of fields. -/
inductive Terminal.Reordered : Terminal → Terminal → Prop where
  | leaf (kind : LeafKind) : Reordered (.leaf kind) (.leaf kind)
  | record {schema schema' : Schema} (h : schema.Reordered schema') :
      Reordered (.record schema) (.record schema')

/-- Below its collections, a kind is the same scalar or a reordered record. -/
theorem FieldKind.Reordered.terminal :
    {kind kind' : FieldKind} → kind.Reordered kind' →
      kind.terminal.Reordered kind'.terminal
  | .leaf _, _, .leaf kind => .leaf kind
  | .record _, _, .record h => .record h
  | .list _, _, .list h => h.terminal

/-- What is a collection stays one. -/
theorem FieldKind.Reordered.isCollection_eq {kind kind' : FieldKind}
    (h : kind.Reordered kind') :
    kind.isCollection = kind'.isCollection := by
  cases h <;> rfl

-- ================================================================ fields

/-- Of lists that are related member by member, every member has its
counterpart in the other. -/
private theorem counterparts {α β : Type} {R : α → β → Prop} {as : List α}
    {bs : List β} (h : List.Forall₂ R as bs) :
    (∀ a ∈ as, ∃ b ∈ bs, R a b) ∧ ∀ b ∈ bs, ∃ a ∈ as, R a b := by
  induction h with
  | nil => exact ⟨List.forall_mem_nil _, List.forall_mem_nil _⟩
  | cons hab _ ih =>
      simp only [List.forall_mem_cons, List.exists_mem_cons_iff]
      exact ⟨⟨.inl hab, fun a ha => .inr (ih.1 a ha)⟩, .inl hab,
        fun b hb => .inr (ih.2 b hb)⟩

/-- Names are never changed, only their order. -/
theorem Field.Reordered.name_eq {field field' : Field}
    (h : field.Reordered field') :
    field.name = field'.name := by
  cases h
  rfl

theorem Field.Reordered.nullable_eq {field field' : Field}
    (h : field.Reordered field') :
    field.nullable = field'.nullable := by
  cases h
  rfl

theorem Field.Reordered.kind {field field' : Field}
    (h : field.Reordered field') :
    field.kind.Reordered field'.kind := by
  cases h with
  | mk h => exact h

namespace Schema.Reordered

variable {schema schema' : Schema}

/-- Every field has its counterpart in the other schema. -/
theorem fields (h : schema.Reordered schema') :
    (∀ field ∈ schema.fields, ∃ field' ∈ schema'.fields,
        field.Reordered field')
      ∧ ∀ field' ∈ schema'.fields, ∃ field ∈ schema.fields,
        field.Reordered field' := by
  obtain ⟨hsame, hperm⟩ := h
  have hcounterparts := counterparts hsame
  simpa only [hperm.mem_iff] using hcounterparts

/-- A reordered schema has the same names. -/
theorem perm_names (h : schema.Reordered schema') :
    (schema.fields.map Field.name).Perm (schema'.fields.map Field.name) := by
  obtain ⟨hsame, hperm⟩ := h
  have hnames : ∀ {fields same : List Field},
      List.Forall₂ Field.Reordered fields same →
        fields.map Field.name = same.map Field.name := by
    intro fields same hsame
    induction hsame with
    | nil => rfl
    | cons hfield _ ih => rw [List.map_cons, List.map_cons, hfield.name_eq, ih]
  rw [hnames hsame]
  exact hperm.map Field.name

/-- The order of fields does not matter for validity. -/
theorem valid (hvalid : schema.Valid) (h : schema.Reordered schema') :
    schema'.Valid := by
  induction hvalid generalizing schema' with
  | @mk schema hdistinct _ ih =>
      refine .mk ?_ ?_
      · have hsymm :
            ∀ {a b : String}, sameName a b = false → sameName b a = false := by
          intro a b hab
          rwa [sameName_comm]
        exact (h.perm_names.pairwise_iff hsymm).mp hdistinct
      · intro field' hfield' inner' hinner'
        obtain ⟨field, hfield, hreordered⟩ := h.fields.2 field' hfield'
        have hterminal := hreordered.kind.terminal
        rw [hinner'] at hterminal
        cases hkind : field.kind.terminal with
        | leaf kind =>
            rw [hkind] at hterminal
            cases hterminal
        | record inner =>
            rw [hkind] at hterminal
            cases hterminal with
            | record hinner => exact ih field hfield inner hkind hinner

/-- In valid schemas the fields of one name are counterparts, however the
name is spelled. -/
theorem field? (hvalid : schema.Valid) (h : schema.Reordered schema')
    {name name' : String} (hname : sameName name name' = true) :
    Option.Rel Field.Reordered (schema.field? name)
      (schema'.field? name') := by
  have hvalid' : schema'.Valid := h.valid hvalid
  cases hfield : schema.field? name with
  | some field =>
      obtain ⟨hmem, hsame⟩ := hvalid.field?_eq_some_iff.mp hfield
      obtain ⟨field', hmem', hreordered⟩ := h.fields.1 field hmem
      have hfield' : schema'.field? name' = some field' := by
        refine hvalid'.field?_eq_some_iff.mpr ⟨hmem', ?_⟩
        rwa [← hreordered.name_eq, ← sameName_congr_right hname]
      rw [hfield']
      exact .some hreordered
  | none =>
      cases hfield' : schema'.field? name' with
      | none => exact .none
      | some field' =>
          -- its counterpart would have been found
          obtain ⟨hmem', hsame'⟩ := hvalid'.field?_eq_some_iff.mp hfield'
          obtain ⟨field, hmem, hreordered⟩ := h.fields.2 field' hmem'
          have hsame : sameName field.name name = true := by
            rwa [hreordered.name_eq, sameName_congr_right hname]
          rw [hvalid.field?_eq_some_iff.mpr ⟨hmem, hsame⟩] at hfield
          cases hfield

end Schema.Reordered

-- ============================================================ resolution

/-- Resolutions that differ in the order of fields in the record that they
lead to, if they lead to one, and in nothing else. -/
structure Resolution.Reordered (r r' : Resolution) : Prop where
  fields : r.fields = r'.fields
  terminal : r.terminal.Reordered r'.terminal
  nullable : r.nullable = r'.nullable
  collection : r.collection = r'.collection

/-- A field resolves to what its counterpart resolves to. -/
theorem Field.Reordered.resolution {field field' : Field}
    (h : field.Reordered field') :
    (Resolution.ofField field).Reordered (Resolution.ofField field') where
  fields := congrArg List.singleton h.name_eq
  terminal := h.kind.terminal
  nullable := h.nullable_eq
  collection := h.kind.isCollection_eq

/-- Resolutions that correspond do so below fields that correspond, too. -/
theorem Resolution.Reordered.below {r r' : Resolution} (h : r.Reordered r')
    {field field' : Field} (hfield : field.Reordered field') :
    (Resolution.below field r).Reordered (Resolution.below field' r') where
  fields := congrArg₂ List.cons hfield.name_eq h.fields
  terminal := h.terminal
  nullable := h.nullable
  collection := congrArg₂ or hfield.kind.isCollection_eq h.collection

/-- Related options stay related under related functions. -/
private theorem rel_map {α β γ δ : Type} {R : α → β → Prop}
    {S : γ → δ → Prop} {f : α → γ} {g : β → δ} {a? : Option α} {b? : Option β}
    (h : Option.Rel R a? b?) (hfg : ∀ a b, R a b → S (f a) (g b)) :
    Option.Rel S (a?.map f) (b?.map g) := by
  cases h with
  | none => exact .none
  | some hab => exact .some (hfg _ _ hab)

/-- In a valid schema names resolve alike in any order of the fields, and
however they are spelled. -/
theorem Schema.Reordered.resolve? {names names' : List String}
    {schema schema' : Schema} (hvalid : schema.Valid)
    (h : schema.Reordered schema')
    (hnames : List.Forall₂ (fun a b => sameName a b = true) names names') :
    Option.Rel Resolution.Reordered (schema.resolve? names)
      (schema'.resolve? names') := by
  induction names generalizing schema schema' names' with
  | nil =>
      cases hnames
      exact .none
  | cons name rest ih =>
      cases hnames with
      | @cons _ name' _ rest' hname hrest =>
          have hfields := h.field? hvalid hname
          generalize hfield : schema.field? name = found at hfields
          generalize hfield' : schema'.field? name' = found' at hfields
          cases rest with
          | nil =>
              cases hrest
              rw [Schema.resolve?, Schema.resolve?, hfield, hfield']
              exact rel_map hfields fun _ _ hreordered => hreordered.resolution
          | cons next rest =>
              obtain ⟨next', rest', -, -, rfl⟩ :=
                List.forall₂_cons_left_iff.mp hrest
              rw [Schema.resolve?, Schema.resolve?, hfield, hfield']
              cases hfields with
              | none => exact .none
              | @some field field' hreordered =>
                  have hnested := hvalid.of_field? hfield
                  have hterminal := hreordered.kind.terminal
                  dsimp only
                  generalize hkind : field.kind.terminal = terminal
                    at hterminal
                  generalize field'.kind.terminal = terminal' at hterminal
                  cases hterminal with
                  | leaf kind => exact .none
                  | @record inner inner' hinner =>
                      exact rel_map (ih (hnested inner hkind) hinner hrest)
                        fun _ _ hr => hr.below hreordered

end RecordFilter
