/-
Schemas that are written as data and read again. Writing chooses one of the
forms that reading knows, and reading takes it back to the schema it came
from, whatever the schema is called and however deep it is nested.

# The limit

A reader opens only so many lists and tables inside each other, and gives up
beyond. It needs to open exactly as many as were written: every statement
below says that what is written is read under a limit if and only if it is
no deeper than the limit, and as what. Both sides count the same way. A kind
is one table around its payload, a field one table around its kind, and a
schema a table and a list around its fields.
-/
import RecordFilter.Loading
import RecordFilter.Proofs.Declaration

namespace RecordFilter

-- ================================================================= depth

/-- A table of one entry is one level deeper than the entry. -/
theorem Data.depth_entry (name : String) (data : Data) :
    (table [(name, data)]).depth = data.depth + 1 := by
  rw [depth, depthOfEntries, depthOfEntries, Nat.max_zero]

theorem Data.depth_texts (texts : List String) :
    (list (texts.map text)).depth = 1 := by
  rw [depth]
  induction texts with
  | nil => rfl
  | cons first rest ih =>
      rwa [List.map_cons, depthOfItems, depth, Nat.zero_max]

theorem LeafKind.depth_toData_enum (variants : List String) :
    (enum variants).toData.depth = 3 := by
  rw [toData, Data.depth_entry, Data.depth_entry, Data.depth_texts]

theorem Field.depth_toData (name : String) (kind : FieldKind)
    (nullable : Bool) :
    (Field.mk name kind nullable).toData.depth = kind.toData.depth + 1 := by
  simp [Field.toData, Data.depth, Data.depthOfEntries]

/-- The data of a schema are two levels deeper than those of its fields. -/
theorem Schema.depth_toData (name : String) (fields : List Field) :
    (Schema.mk name fields).toData.depth
      = Data.depthOfItems (Schema.fieldsToData fields) + 2 := by
  simp [Schema.toData, Data.depth, Data.depthOfEntries]

-- =============================================================== reading

variable (dialect : Data.Dialect)

namespace LeafKind

/-- Variants lie two deep, in the list that the body of an enum holds. -/
theorem variants?_texts (variants : List String) (limit : Nat) :
    variants? dialect limit (.table [("variants", .list (variants.map .text))])
      = if 2 ≤ limit then some variants else none := by
  match limit with
  | 0 => rfl
  | 1 => rfl
  | limit + 2 =>
      rw [if_pos (Nat.le_add_left 2 limit)]
      exact Data.texts?_list variants

/-- A scalar kind is read as it was written. -/
theorem ofData?_toData (kind : LeafKind) (limit : Nat) :
    ofData? dialect limit kind.toData
      = if kind.toData.depth ≤ limit then some kind else none := by
  cases kind with
  | enum variants =>
      rw [depth_toData_enum]
      cases limit with
      | zero => rfl
      | succ limit =>
          rw [toData, ofData?, if_pos rfl, variants?_texts]
          simp only [Nat.succ_le_succ_iff]
          split <;> rfl
  | _ => cases limit <;> rfl

end LeafKind

-- The recursion is on what was written; the limit falls along with it.
mutual

/-- A kind is read as it was written. -/
theorem FieldKind.ofData?_toData : (kind : FieldKind) → (limit : Nat) →
    FieldKind.ofData? dialect limit kind.toData
      = if kind.toData.depth ≤ limit then some kind else none
  | kind, 0 => by
    cases kind <;> simp [FieldKind.toData, FieldKind.ofData?, Data.depth_entry]
  | .leaf kind, limit + 1 => by
      rw [FieldKind.toData, FieldKind.ofData?,
        LeafKind.ofData?_toData dialect kind limit, Data.depth_entry]
      simp
  | .record schema, limit + 1 => by
      rw [FieldKind.toData, FieldKind.ofData?,
        Schema.ofData?_toData schema limit, Data.depth_entry]
      simp
  | .list element, limit + 1 => by
      rw [FieldKind.toData, FieldKind.ofData?,
        FieldKind.ofData?_toData element limit, Data.depth_entry]
      simp

/-- A field is read as it was written. -/
theorem Field.ofData?_toData : (field : Field) → (limit : Nat) →
    Field.ofData? dialect limit field.toData
      = if field.toData.depth ≤ limit then some field else none
  | ⟨name, kind, nullable⟩, 0 => by
      rw [Field.ofData?, Field.depth_toData]
      rfl
  | ⟨name, kind, nullable⟩, limit + 1 => by
      have hvalues : (Field.mk name kind nullable).toData.fieldValues? dialect
          false ["name", "kind", "nullable"]
          = some [some (.text name), some kind.toData,
            some (.bool nullable)] := rfl
      rw [Field.ofData?, hvalues, Field.depth_toData]
      simp only [FieldKind.ofData?_toData kind limit, Nat.succ_le_succ_iff]
      split <;> rfl

/-- A schema is read as it was written. -/
theorem Schema.ofData?_toData : (schema : Schema) → (limit : Nat) →
    Schema.ofData? dialect limit schema.toData
      = if schema.toData.depth ≤ limit then some schema else none
  | ⟨name, fields⟩, 0 | ⟨name, fields⟩, 1 => by
      simp [Schema.ofData?, Schema.depth_toData]
  | ⟨name, fields⟩, limit + 2 => by
      have hvalues : (Schema.mk name fields).toData.fieldValues? dialect false
          ["name", "fields"]
          = some [some (.text name),
            some (.list (Schema.fieldsToData fields))] := rfl
      rw [Schema.ofData?, hvalues, Schema.depth_toData]
      simp only [Schema.mapM_fieldsToData fields limit,
        Nat.add_le_add_iff_right]
      split <;> rfl

/-- Fields are read as they were written, all of them or none. -/
theorem Schema.mapM_fieldsToData : (fields : List Field) → (limit : Nat) →
    (Schema.fieldsToData fields).mapM (Field.ofData? dialect limit)
      = if Data.depthOfItems (Schema.fieldsToData fields) ≤ limit then
        some fields else none
  | [], limit => by simp [Schema.fieldsToData, Data.depthOfItems]
  | field :: rest, limit => by
      rw [Schema.fieldsToData, List.mapM_cons,
        Field.ofData?_toData field limit, Schema.mapM_fieldsToData rest limit,
        Data.depthOfItems]
      simp only [Nat.max_le]
      -- read one by one, written with one depth for all
      by_cases hfield : field.toData.depth ≤ limit
      · by_cases hrest : Data.depthOfItems (Schema.fieldsToData rest) ≤ limit
        · simp [hfield, hrest]
        · simp [hfield, hrest]
      · simp [hfield]

end

-- =============================================================== loading

namespace Schema

variable {dialect}

/-- Loading what was written is validation. -/
theorem load_toData_eq_validated {schema : Schema} {limit : Nat}
    (hlimit : schema.toData.depth ≤ limit) (failure : SetupError) :
    load dialect limit failure schema.toData = schema.validated := by
  rw [load, ofData?_toData, if_pos hlimit]
  rfl

/-- A JSON text of a schema loads as this schema, if it is valid and not
nested too deep for JSON. -/
theorem ofJson_eq_validated {schema : Schema} {text : String}
    (hread : Json.read? text = some schema.toData)
    (hlimit : schema.toData.depth ≤ Json.depthLimit) :
    ofJson text = schema.validated := by
  rw [ofJson, hread]
  exact load_toData_eq_validated hlimit .json

/-- A TOML text of a schema loads as this schema, if it is valid. -/
theorem ofToml_eq_validated {schema : Schema} {text : String}
    (hread : Toml.read? text = some schema.toData) :
    ofToml text = schema.validated := by
  rw [ofToml, hread]
  exact load_toData_eq_validated (Nat.le_refl _) .toml

/-- What is written of a schema is read as the schema itself, under any limit
that leaves room for it. The loader hands it out if it is valid, and
otherwise fails as its validation does, with a repeated field. -/
theorem load_toData (schema : Schema) (dialect : Data.Dialect) {limit : Nat}
    (hlimit : schema.toData.depth ≤ limit) (failure : SetupError) :
    ofData? dialect limit schema.toData = some schema
      ∧ (∀ loaded, load dialect limit failure schema.toData = .ok loaded
          ↔ schema.validate = .ok () ∧ loaded = schema)
      ∧ (∀ error, load dialect limit failure schema.toData = .error error
          ↔ schema.validate = .error error)
      ∧ ∀ error, schema.validate = .error error →
          ∃ owner field, error = .duplicateField owner field := by
  rw [load_toData_eq_validated hlimit, ofData?_toData, if_pos hlimit]
  refine ⟨rfl, fun _ => validated_eq_ok_iff, fun _ => validated_eq_error_iff,
    ?_⟩
  intro error h
  exact repetition?_eq_duplicateField schema (validate_eq_error_iff.mp h)

/-- Lists in lists, records in records and enums of both sorts; and the same
with a name that two nested fields share. -/
theorem load_toData_nested :
    load Json.dialect 11 .json
      (toData ⟨"Trip", [.enumeration "mode" [], .record "leg" ⟨"Leg",
        [.enumeration "Class" ["low", "high"],
          ⟨"tags", .list (.list (.leaf .text)), false⟩]⟩]⟩)
      = .ok ⟨"Trip", [.enumeration "mode" [], .record "leg" ⟨"Leg",
        [.enumeration "Class" ["low", "high"],
          ⟨"tags", .list (.list (.leaf .text)), false⟩]⟩]⟩
    ∧ load Json.dialect 11 .json
      (toData ⟨"Trip", [.enumeration "mode" [], .record "leg" ⟨"Leg",
        [.enumeration "Class" ["low", "high"], .other "class"]⟩]⟩)
      = .error (.duplicateField "Leg" "class") :=
  ⟨((load_toData _ Json.dialect (by decide) .json).2.1 _).mpr ⟨rfl, rfl⟩,
    ((load_toData _ Json.dialect (by decide) .json).2.2.1 _).mpr rfl⟩

end Schema

end RecordFilter
