/-
Validity of schemas, told without an order of visits. The search for a
repeated name goes through the fields from first to last, and into a nested
schema in passing; what it searches for is any two fields of one schema with
the same name. `Schema.Valid` says that there are none, here or further in.

# What validity is for

A field is looked up by name, and the first that matches is taken. In a
valid schema no other matches, so that the field is determined by its name
wherever it stands (`Valid.field?_eq_some_iff`).
-/
import RecordFilter.Schema.Resolution
import RecordFilter.Schema.Validation

namespace RecordFilter

-- ============================================================ definition

/-- Names of which no two are the same. -/
abbrev Distinct (names : List String) : Prop :=
  names.Pairwise fun a b => sameName a b = false

/-- Schemas that tell their fields apart, as do all schemas nested in
them. -/
inductive Schema.Valid : Schema → Prop where
  | mk {schema : Schema} (distinct : Distinct (schema.fields.map Field.name))
      (nested : ∀ field ∈ schema.fields, ∀ inner,
        field.kind.terminal = .record inner → inner.Valid) :
      schema.Valid

/-- What is nested in a kind is valid. -/
abbrev FieldKind.NestsValid (kind : FieldKind) : Prop :=
  ∀ inner, kind.terminal = .record inner → inner.Valid

theorem Schema.valid_iff {schema : Schema} :
    schema.Valid ↔ Distinct (schema.fields.map Field.name)
      ∧ ∀ field ∈ schema.fields, field.kind.NestsValid := by
  constructor
  · rintro ⟨hdistinct, hnested⟩
    exact ⟨hdistinct, hnested⟩
  · rintro ⟨hdistinct, hnested⟩
    exact .mk hdistinct hnested

-- ============================================================ the search

mutual

/-- The search finds nothing in valid schemas, and in no others. -/
theorem Schema.repetition?_eq_none_iff :
    (schema : Schema) → (schema.repetition? = none ↔ schema.Valid)
  | ⟨name, fields⟩ => by
      rw [Schema.repetition?,
        Schema.repetitionAmong?_eq_none_iff name [] fields, Schema.valid_iff]
      exact and_iff_right fun _ _ => List.forall_mem_nil _

/-- Fields that stand behind others repeat neither their names nor one
another's. -/
theorem Schema.repetitionAmong?_eq_none_iff (schema : String)
    (before : List String) :
    (fields : List Field) →
    (Schema.repetitionAmong? schema before fields = none
      ↔ (∀ field ∈ fields, ∀ name ∈ before, sameName name field.name = false)
        ∧ Distinct (fields.map Field.name)
        ∧ ∀ field ∈ fields, field.kind.NestsValid)
  | [] => by simp [Schema.repetitionAmong?]
  | field :: rest => by
      have hstep : Schema.repetitionAmong? schema before (field :: rest) = none
          ↔ field.repetition? schema before = none
            ∧ Schema.repetitionAmong? schema (before ++ [field.name]) rest
              = none := by
        rw [Schema.repetitionAmong?]
        cases field.repetition? schema before <;> simp
      have hbefore : (∀ other ∈ rest, ∀ name ∈ before ++ [field.name],
            sameName name other.name = false)
          ↔ (∀ other ∈ rest, ∀ name ∈ before, sameName name other.name = false)
            ∧ ∀ other ∈ rest, sameName field.name other.name = false := by
        simp only [List.forall_mem_append, List.forall_mem_singleton,
          forall_and]
      rw [hstep, Field.repetition?_eq_none_iff schema before field,
        Schema.repetitionAmong?_eq_none_iff schema (before ++ [field.name])
          rest, hbefore]
      simp only [List.forall_mem_cons, List.map_cons, List.pairwise_cons,
        List.forall_mem_map]
      constructor
      · rintro ⟨⟨hbefore, hnested⟩, ⟨hrest, hfield⟩, hdistinct, hrestNested⟩
        exact ⟨⟨hbefore, hrest⟩, ⟨hfield, hdistinct⟩, hnested, hrestNested⟩
      · rintro ⟨⟨hbefore, hrest⟩, ⟨hfield, hdistinct⟩, hnested, hrestNested⟩
        exact ⟨⟨hbefore, hnested⟩, ⟨hrest, hfield⟩, hdistinct, hrestNested⟩

/-- A field repeats no name before it. -/
theorem Field.repetition?_eq_none_iff (schema : String)
    (before : List String) :
    (field : Field) → (field.repetition? schema before = none
      ↔ (∀ name ∈ before, sameName name field.name = false)
        ∧ field.kind.NestsValid)
  | ⟨name, kind, nullable⟩ => by
      have hunrepeated : before.any (sameName · name) = false
          ↔ ∀ earlier ∈ before, sameName earlier name = false := by
        simp only [List.any_eq_false, Bool.not_eq_true]
      rw [Field.repetition?, ← hunrepeated,
        ← FieldKind.repetition?_eq_none_iff kind]
      cases before.any (sameName · name) <;> simp

/-- Nor does what is nested in its kind. -/
theorem FieldKind.repetition?_eq_none_iff :
    (kind : FieldKind) → (kind.repetition? = none ↔ kind.NestsValid)
  | .leaf _ => by
      refine iff_of_true rfl ?_
      rintro inner ⟨⟩
  | .record schema => by
      rw [FieldKind.repetition?, Schema.repetition?_eq_none_iff schema]
      simp [FieldKind.NestsValid, FieldKind.terminal]
  | .list element => by
      rw [FieldKind.repetition?, FieldKind.repetition?_eq_none_iff element]
      rfl

end

-- ============================================================ validation

namespace Schema

/-- Validation accepts the valid schemas. -/
theorem validate_eq_ok_iff {schema : Schema} :
    schema.validate = .ok () ↔ schema.Valid := by
  rw [← repetition?_eq_none_iff, validate]
  cases schema.repetition? <;> simp

theorem validate_eq_error_iff {schema : Schema} {error : SetupError} :
    schema.validate = .error error ↔ schema.repetition? = some error := by
  rw [validate]
  cases schema.repetition? <;> simp

theorem validated_eq_ok_iff {schema schema' : Schema} :
    schema.validated = .ok schema'
      ↔ schema.validate = .ok () ∧ schema' = schema := by
  rw [validated]
  cases schema.validate with
  | error e => simp [Except.map]
  | ok u =>
      constructor
      · intro h
        exact ⟨rfl, (Except.ok.inj h).symm⟩
      · rintro ⟨-, rfl⟩
        rfl

theorem validated_eq_error_iff {schema : Schema} {error : SetupError} :
    schema.validated = .error error ↔ schema.validate = .error error := by
  rw [validated]
  cases schema.validate <;> simp [Except.map]

end Schema

-- ============================================================== look-up

namespace Schema

variable {schema : Schema} {name : String} {field : Field}

/-- The first match is the only one where no two names are the same. -/
private theorem find?_eq_some_iff {fields : List Field}
    (h : Distinct (fields.map Field.name)) :
    fields.find? (fun field => sameName field.name name) = some field
      ↔ field ∈ fields ∧ sameName field.name name = true := by
  induction fields with
  | nil => simp
  | cons first rest ih =>
      rw [List.map_cons, Distinct, List.pairwise_cons] at h
      cases hfirst : sameName first.name name with
      | false =>
          rw [List.find?_cons, hfirst, ih h.2, List.mem_cons]
          constructor
          · rintro ⟨hmem, hname⟩
            exact ⟨.inr hmem, hname⟩
          · rintro ⟨rfl | hmem, hname⟩
            · rw [hfirst] at hname
              cases hname
            · exact ⟨hmem, hname⟩
      | true =>
          rw [List.find?_cons, hfirst, Option.some.injEq, List.mem_cons]
          constructor
          · rintro rfl
            exact ⟨.inl rfl, hfirst⟩
          · rintro ⟨rfl | hmem, hname⟩
            · rfl
            · -- a second match would have the name of the first
              have hdistinct := h.1 field.name (List.mem_map_of_mem hmem)
              rw [sameName_congr_right hname, hfirst] at hdistinct
              cases hdistinct

/-- In a valid schema a field is determined by its name. -/
theorem Valid.field?_eq_some_iff (h : schema.Valid) :
    schema.field? name = some field
      ↔ field ∈ schema.fields ∧ sameName field.name name = true :=
  find?_eq_some_iff (valid_iff.mp h).1

/-- What a field of a valid schema leads to is valid. -/
theorem Valid.of_field? (h : schema.Valid)
    (hfield : schema.field? name = some field) :
    field.kind.NestsValid :=
  (valid_iff.mp h).2 field (h.field?_eq_some_iff.mp hfield).1

end Schema

end RecordFilter
