/-
Where a schema declares its fields, and which of them is blamed for a
repeated name. An address has a position for each schema from the outermost
to the one that declares the field (`Schema.Declares`). In the order of
addresses, lexicographic as it is for lists, a field comes before all that
is nested in it, and what is nested in it before the next field; this is the
order in which fields are visited.

# What validation reports

Validation accepts a schema in which every schema that lies within has names
that are told apart (`Schema.valid_iff_within`). In any other, it reports
the first field at whose address the name of an earlier field of the same
schema stands again (`Schema.first_of_repetition?`), and there is just one
such field (`Schema.First.unique`).

Both sides are needed: the first match is taken in every look-up, so that a
repetition that was missed would hide a field, and one that was made up
would refuse a schema for nothing.
-/
import Mathlib.Data.List.Lex
import RecordFilter.Proofs.Validity

namespace RecordFilter

-- ============================================================== addresses

/-- A schema that lies within another: that schema itself, or one that lies
within what a field of it holds, layers of collections aside. -/
inductive Schema.Within : Schema → Schema → Prop where
  | refl (schema : Schema) : Schema.Within schema schema
  | field {inner nested schema : Schema} {field : Field}
      (hfield : field ∈ schema.fields)
      (hkind : field.kind.terminal = .record nested)
      (h : Schema.Within inner nested) :
      Schema.Within inner schema

/-- A field with the schema that declares it, and the fields that stand
before it there. -/
structure Declaration where
  owner : Schema
  earlier : List Field
  field : Field

/-- Whether an earlier field has the same name. -/
def Declaration.Repeats (d : Declaration) : Prop :=
  ∃ other ∈ d.earlier, sameName other.name d.field.name = true

/-- The report of a repeated field. -/
def Declaration.error (d : Declaration) : SetupError :=
  .duplicateField d.owner.name d.field.name

/-- What a schema, or one that lies within it, declares at an address. -/
inductive Schema.Declares : Schema → List Nat → Declaration → Prop where
  | here {schema : Schema} {earlier later : List Field} {field : Field}
      (h : schema.fields = earlier ++ field :: later) :
      Schema.Declares schema [earlier.length] ⟨schema, earlier, field⟩
  | nested {schema inner : Schema} {earlier later : List Field}
      {field : Field} {address : List Nat} {d : Declaration}
      (h : schema.fields = earlier ++ field :: later)
      (hkind : field.kind.terminal = .record inner)
      (hinner : Schema.Declares inner address d) :
      Schema.Declares schema (earlier.length :: address) d

namespace Schema

variable {schema inner : Schema} {address : List Nat} {d : Declaration}
  {error : SetupError}

theorem Declares.within (h : schema.Declares address d) :
    d.owner.Within schema := by
  induction h with
  | here _ => exact .refl _
  | nested h hkind _ ih =>
      refine .field ?_ hkind ih
      rw [h]
      exact List.mem_append_right _ (List.mem_cons_self ..)

/-- The earlier fields are those that stand before it. -/
theorem Declares.fields_eq (h : schema.Declares address d) :
    ∃ later, d.owner.fields = d.earlier ++ d.field :: later := by
  induction h with
  | here h => exact ⟨_, h⟩
  | nested _ _ _ ih => exact ih

/-- At the position of a field stands the field itself, or what is nested in
it. -/
theorem Declares.at_position {earlier later : List Field} {field : Field}
    (hfields : schema.fields = earlier ++ field :: later)
    (h : schema.Declares (earlier.length :: address) d) :
    (address = [] ∧ d = ⟨schema, earlier, field⟩)
      ∨ ∃ inner, field.kind.terminal = .record inner
        ∧ inner.Declares address d := by
  generalize hposition : earlier.length :: address = position at h
  cases h with
  | here h =>
      obtain ⟨hlength, rfl⟩ := List.cons.inj hposition
      obtain ⟨rfl, hrest⟩ := List.append_inj (hfields.symm.trans h) hlength
      exact .inl ⟨rfl, by rw [(List.cons.inj hrest).1]⟩
  | nested h hkind hinner =>
      obtain ⟨hlength, rfl⟩ := List.cons.inj hposition
      obtain ⟨rfl, hrest⟩ := List.append_inj (hfields.symm.trans h) hlength
      rw [← (List.cons.inj hrest).1] at hkind
      exact .inr ⟨_, hkind, hinner⟩

/-- Every address starts with a position. -/
theorem Declares.exists_cons (h : schema.Declares address d) :
    ∃ earlier field later rest, schema.fields = earlier ++ field :: later
      ∧ address = earlier.length :: rest := by
  cases h with
  | here h => exact ⟨_, _, _, _, h, rfl⟩
  | nested h _ _ => exact ⟨_, _, _, _, h, rfl⟩

/-- At one address nothing else is declared. -/
theorem Declares.unique {d' : Declaration} (h : schema.Declares address d)
    (h' : schema.Declares address d') : d = d' := by
  induction h with
  | here hfields =>
      rcases h'.at_position hfields with ⟨-, rfl⟩ | ⟨inner, -, hinner⟩
      · rfl
      · cases hinner
  | nested hfields hkind hinner ih =>
      rcases h'.at_position hfields with ⟨rfl, -⟩ | ⟨inner, hkind', hinner'⟩
      · cases hinner
      · rw [hkind] at hkind'
        cases hkind'
        exact ih hinner'

-- =============================================================== validity

theorem Valid.distinct_of_within (hvalid : schema.Valid)
    (h : inner.Within schema) :
    Distinct (inner.fields.map Field.name) := by
  induction h with
  | refl => exact (valid_iff.mp hvalid).1
  | field hfield hkind _ ih =>
      exact ih ((valid_iff.mp hvalid).2 _ hfield _ hkind)

/-- A field that repeats a name keeps the names of its schema from being
told apart. -/
theorem Declares.not_repeats (h : schema.Declares address d)
    (hdistinct : Distinct (d.owner.fields.map Field.name)) : ¬ d.Repeats := by
  rintro ⟨other, hother, hsame⟩
  obtain ⟨later, hfields⟩ := h.fields_eq
  rw [hfields, List.map_append, List.map_cons, Distinct,
    List.pairwise_append] at hdistinct
  have hdiffer :=
    hdistinct.2.2 other.name (List.mem_map_of_mem hother) d.field.name
      (List.mem_cons_self ..)
  rw [hsame] at hdiffer
  cases hdiffer

theorem Valid.not_repeats (hvalid : schema.Valid)
    (h : schema.Declares address d) :
    ¬ d.Repeats :=
  h.not_repeats (hvalid.distinct_of_within h.within)

-- ==================================================== the first repeated

/-- The first field, in the order of addresses, that repeats a name. -/
structure First (schema : Schema) (address : List Nat) (d : Declaration) :
    Prop where
  declared : schema.Declares address d
  repeated : d.Repeats
  first : ∀ address' d', schema.Declares address' d' → address' < address →
    ¬ d'.Repeats

theorem First.unique {address' : List Nat} {d' : Declaration}
    (h : schema.First address d) (h' : schema.First address' d') : d = d' := by
  rcases lt_trichotomy address address' with hlt | rfl | hlt
  · exact absurd h.repeated (h'.first _ _ h.declared hlt)
  · exact h.declared.unique h'.declared
  · exact absurd h'.repeated (h.first _ _ h'.declared hlt)

/-- No field before a position repeats a name, nor does any that is nested
in one of those. -/
def ClearBefore (schema : Schema) (position : Nat) : Prop :=
  ∀ address d, schema.Declares address d → address < [position] → ¬ d.Repeats

private theorem cons_lt_singleton_iff {n m : Nat} {rest : List Nat} :
    n :: rest < [m] ↔ n < m := by
  simp [List.cons_lt_cons_iff]

theorem clearBefore_zero (schema : Schema) : schema.ClearBefore 0 := by
  intro address d h hlt
  obtain ⟨earlier, _, _, _, -, rfl⟩ := h.exists_cons
  exact absurd (cons_lt_singleton_iff.mp hlt) (Nat.not_lt_zero _)

section Fields

variable {earlier later : List Field} {field : Field}

/-- The fields before a position stay clear when one is added that neither
repeats a name nor nests a repetition. -/
theorem ClearBefore.succ (hfields : schema.fields = earlier ++ field :: later)
    (hclear : schema.ClearBefore earlier.length)
    (hfield : ¬ (Declaration.mk schema earlier field).Repeats)
    (hnested : field.kind.NestsValid) :
    schema.ClearBefore (earlier.length + 1) := by
  intro address d h hlt
  obtain ⟨before, _, _, rest, -, rfl⟩ := h.exists_cons
  rcases (Nat.le_of_lt_succ (cons_lt_singleton_iff.mp hlt)).lt_or_eq with
    hlt | heq
  · exact hclear _ _ h (cons_lt_singleton_iff.mpr hlt)
  · rw [heq] at h
    rcases h.at_position hfields with ⟨-, rfl⟩ | ⟨inner, hkind, hinner⟩
    · exact hfield
    · exact (hnested inner hkind).not_repeats hinner

/-- A field that repeats a name behind clear fields is the first to do
so. -/
theorem First.here (hfields : schema.fields = earlier ++ field :: later)
    (hclear : schema.ClearBefore earlier.length)
    (hfield : (Declaration.mk schema earlier field).Repeats) :
    schema.First [earlier.length] ⟨schema, earlier, field⟩ :=
  ⟨.here hfields, hfield, hclear⟩

/-- So is the first one that is nested in a field which itself repeats no
name. -/
theorem First.nested (hfields : schema.fields = earlier ++ field :: later)
    (hclear : schema.ClearBefore earlier.length)
    (hfield : ¬ (Declaration.mk schema earlier field).Repeats)
    (hkind : field.kind.terminal = .record inner) (h : inner.First address d) :
    schema.First (earlier.length :: address) d := by
  refine ⟨.nested hfields hkind h.declared, h.repeated, ?_⟩
  intro address' d' h' hlt
  obtain ⟨before, _, _, rest, -, rfl⟩ := h'.exists_cons
  rcases List.cons_lt_cons_iff.mp hlt with hlt | ⟨heq, hlt⟩
  · exact hclear _ _ h' (cons_lt_singleton_iff.mpr hlt)
  · rw [heq] at h'
    rcases h'.at_position hfields with ⟨-, rfl⟩ | ⟨inner', hkind', hinner⟩
    · exact hfield
    · rw [hkind] at hkind'
      cases hkind'
      exact h.first _ _ hinner hlt

end Fields

/-- The error of the first repeated field. -/
def Reports (schema : Schema) (error : SetupError) : Prop :=
  ∃ address d, schema.First address d ∧ error = d.error

end Schema

-- ============================================================= the search

/-- The name of a field is searched for among those of the fields before
it. -/
theorem Declaration.repeats_iff {d : Declaration} :
    d.Repeats ↔ (d.earlier.map Field.name).any (sameName · d.field.name)
      = true := by
  simp only [Repeats, List.any_map, List.any_eq_true, Function.comp_apply]

mutual

/-- What is found in a schema is the report of the first repeated field. -/
theorem Schema.first_of_repetition? {error : SetupError} :
    (schema : Schema) → schema.repetition? = some error → schema.Reports error
  | ⟨name, fields⟩, h =>
      Schema.first_of_repetitionAmong? ⟨name, fields⟩ [] fields rfl
        (Schema.clearBefore_zero _) h

/-- So is what is found among the fields that stand behind clear ones. -/
theorem Schema.first_of_repetitionAmong? {error : SetupError} (schema : Schema)
    (earlier : List Field) :
    (fields : List Field) → schema.fields = earlier ++ fields →
      schema.ClearBefore earlier.length →
      Schema.repetitionAmong? schema.name (earlier.map Field.name) fields
        = some error →
      schema.Reports error
  | field :: rest, hfields, hclear, h => by
      rw [Schema.repetitionAmong?] at h
      cases hfield : field.repetition? schema.name
        (earlier.map Field.name) with
      | some found =>
          rw [hfield] at h
          obtain rfl : found = error := Option.some.inj h
          rcases Field.first_of_repetition? schema earlier field hfield with
            ⟨hrepeats, rfl⟩
            | ⟨hunrepeated, inner, hkind, address, d, hfirst, rfl⟩
          · exact ⟨_, _, .here hfields hclear hrepeats, rfl⟩
          · exact ⟨_, _, .nested hfields hclear hunrepeated hkind hfirst, rfl⟩
      | none =>
          -- this field is clear, so it joins those that the next stands behind
          rw [hfield] at h
          obtain ⟨hunrepeated, hnested⟩ :=
            (Field.repetition?_eq_none_iff schema.name
              (earlier.map Field.name) field).mp hfield
          refine Schema.first_of_repetitionAmong? schema
            (earlier ++ [field]) rest ?_ ?_ ?_
          · rw [hfields, List.append_assoc, List.singleton_append]
          · rw [List.length_append, List.length_singleton]
            refine hclear.succ hfields ?_ hnested
            rintro ⟨other, hother, hsame⟩
            rw [hunrepeated other.name (List.mem_map_of_mem hother)] at hsame
            cases hsame
          · rw [List.map_append, List.map_singleton]
            exact h

/-- What is found at a field is the field itself, or else the first repeated
one of what is nested in it. -/
theorem Field.first_of_repetition? {error : SetupError} (schema : Schema)
    (earlier : List Field) :
    (field : Field) →
      field.repetition? schema.name (earlier.map Field.name) = some error →
      ((Declaration.mk schema earlier field).Repeats
          ∧ error = (Declaration.mk schema earlier field).error)
        ∨ (¬ (Declaration.mk schema earlier field).Repeats
          ∧ ∃ inner, field.kind.terminal = .record inner ∧ inner.Reports error)
  | ⟨name, kind, nullable⟩, h => by
      rw [Field.repetition?] at h
      split at h
      · next hany =>
        cases h
        exact .inl ⟨Declaration.repeats_iff.mpr hany, rfl⟩
      · next hany =>
        refine .inr
          ⟨fun hrepeats => hany (Declaration.repeats_iff.mp hrepeats), ?_⟩
        exact FieldKind.first_of_repetition? kind h

/-- Layers of collections are passed on the way. -/
theorem FieldKind.first_of_repetition? {error : SetupError} :
    (kind : FieldKind) → kind.repetition? = some error →
      ∃ inner, kind.terminal = .record inner ∧ inner.Reports error
  | .record schema, h => ⟨schema, rfl, Schema.first_of_repetition? schema h⟩
  | .list element, h => FieldKind.first_of_repetition? element h

end

-- ============================================================= validation

namespace Schema

variable {schema : Schema} {error : SetupError}

/-- A schema is valid if the names are told apart in every schema that lies
within. -/
theorem valid_iff_within :
    schema.Valid
      ↔ ∀ inner : Schema, inner.Within schema →
        Distinct (inner.fields.map Field.name) := by
  constructor
  · intro hvalid inner h
    exact hvalid.distinct_of_within h
  · intro hdistinct
    rw [← repetition?_eq_none_iff]
    cases hsearch : schema.repetition? with
    | none => rfl
    | some error =>
        obtain ⟨_, d, hfirst, -⟩ := first_of_repetition? schema hsearch
        have hunrepeated : ¬ d.Repeats :=
          hfirst.declared.not_repeats
            (hdistinct d.owner hfirst.declared.within)
        exact absurd hfirst.repeated hunrepeated

/-- All that is searched for in a schema is a repeated field. -/
theorem repetition?_eq_duplicateField (schema : Schema)
    (h : schema.repetition? = some error) :
    ∃ owner field, error = .duplicateField owner field := by
  obtain ⟨_, d, -, rfl⟩ := first_of_repetition? schema h
  exact ⟨d.owner.name, d.field.name, rfl⟩

/-- What is reported is the first repeated field, and nothing else is. -/
theorem validate_eq_error_iff_reports :
    schema.validate = .error error ↔ schema.Reports error := by
  constructor
  · intro h
    exact first_of_repetition? schema (validate_eq_error_iff.mp h)
  · rintro ⟨address, d, hfirst, rfl⟩
    cases hvalidate : schema.validate with
    | ok =>
        exact absurd hfirst.repeated
          ((validate_eq_ok_iff.mp hvalidate).not_repeats hfirst.declared)
    | error found =>
        -- some first repetition was found, and there is only one
        obtain ⟨_, d', hfirst', rfl⟩ :=
          first_of_repetition? schema (validate_eq_error_iff.mp hvalidate)
        rw [hfirst.unique hfirst']

/-- Validation accepts a schema if no two fields have the same name in it or
in any schema within. Otherwise it reports a field that stands behind another
of its name, under the name of the schema that declares both: the first such
field in the order of addresses. -/
theorem validate_exact (schema : Schema) :
    (schema.validate = .ok () ↔
        ∀ inner : Schema, inner.Within schema →
          Distinct (inner.fields.map Field.name))
      ∧ ∀ error, schema.validate = .error error ↔
          ∃ address owner earlier field,
            schema.Declares address ⟨owner, earlier, field⟩
            ∧ owner.Within schema
            ∧ (∃ later, owner.fields = earlier ++ field :: later)
            ∧ (∃ other ∈ earlier, sameName other.name field.name = true)
            ∧ (∀ address' d, schema.Declares address' d → address' < address →
              ¬ d.Repeats)
            ∧ error = .duplicateField owner.name field.name := by
  refine ⟨validate_eq_ok_iff.trans valid_iff_within, fun error => ?_⟩
  rw [validate_eq_error_iff_reports]
  constructor
  · rintro ⟨address, d, hfirst, rfl⟩
    exact ⟨address, d.owner, d.earlier, d.field, hfirst.declared,
      hfirst.declared.within, hfirst.declared.fields_eq, hfirst.repeated,
      hfirst.first, rfl⟩
  · rintro ⟨address, owner, earlier, field, hdeclares, -, -, hrepeats, hfirst,
      rfl⟩
    exact ⟨address, ⟨owner, earlier, field⟩, ⟨hdeclares, hrepeats, hfirst⟩,
      rfl⟩

/-- What a field holds comes before the next field. -/
example :
    validate ⟨"Trip",
      [.records "legs" ⟨"Leg", [.other "mode", .other "Mode"]⟩,
        .other "Legs"]⟩
      = .error (.duplicateField "Leg" "Mode") := rfl

end Schema

end RecordFilter
