/-
Locality: a predicate looks at nothing in a record but the fields that its
comparisons name. Which fields these are is said by the schema. A query may
spell a name in any case, but the record is asked for the declared
spelling, and a document answers for that spelling alone.

# From one path to documents

- A path starts in one field (`Schema.root?`), and what it selects is read
  there: records that answer alike for it select alike
  (`selected_congr`).
- A comparison decides by what its path selects, and a formula by its
  comparisons, so records that answer alike for the roots of an expression
  are accepted alike (`accepts_congr`).
- Setting a field of a document, or taking it away, changes the answer for
  its exact name and for no other (`get?_insert`, `get?_without`).

Nothing is assumed of the schema, which may even declare a name twice, nor
of the order in which a document holds its fields.
-/
import RecordFilter.Document
import RecordFilter.Proofs.Reading

namespace RecordFilter

variable {schema : Schema} {record record' : Record}

-- ================================================================= roots

/-- The declared name of the field in which a path starts. -/
def Schema.root? (schema : Schema) (path : Path) : Option String :=
  path.names.head?.bind fun name => (schema.field? name).map Field.name

/-- The declared names of the fields in which the comparisons of an
expression start. -/
def Expression.roots (schema : Schema) (e : Expression) : List String :=
  e.comparisons.filterMap fun c => schema.root? c.path

/-- The first declared name of a resolution is that of the field that the
first name finds. -/
theorem Schema.head?_fields_of_resolve? {names : List String} {r : Resolution}
    (h : schema.resolve? names = some r) :
    r.fields.head? = names.head?.bind fun name =>
      (schema.field? name).map Field.name := by
  obtain ⟨fields, last, hroute, -, rfl⟩ := resolve?_eq_some_iff.mp h
  rw [Resolution.ofRoute, List.head?_map, hroute.head?, Option.map_bind]
  rfl

/-- The first step of a path reads its root. -/
theorem Resolution.root?_of_steps {path : Path} {r : Resolution} {step : Step}
    {rest : List Step} (hresolved : schema.resolve? path.names = some r)
    (hsteps : r.steps path = step :: rest) :
    schema.root? path = some step.field := by
  rw [Schema.root?, ← Schema.head?_fields_of_resolve? hresolved,
    ← map_field_steps hresolved, hsteps]
  rfl

-- =============================================================== reading

/-- What a path selects is read in its root. -/
theorem Schema.selected_congr {path : Path}
    (h : ∀ name, schema.root? path = some name → record name = record' name) :
    schema.selected path record = schema.selected path record' := by
  unfold Schema.selected
  cases hresolved : schema.resolve? path.names with
  | none => rfl
  | some r =>
      dsimp only [Option.elim_some]
      cases hsteps : r.steps path with
      | nil => rfl
      | cons step rest =>
          -- the record is asked once, for the root; all else is read in the
          -- answer
          have hroot := Resolution.root?_of_steps hresolved hsteps
          rw [Slot.selected_record, Slot.selected_record, h step.field hroot]

/-- A comparison decides by its root. -/
theorem Comparison.accepts_congr {c : Comparison}
    (h : ∀ name, schema.root? c.path = some name →
      record name = record' name) :
    c.Accepts schema record ↔ c.Accepts schema record' := by
  refine exists_congr fun p => and_congr_right fun hp => ?_
  obtain ⟨r, kind, test, -, haccepts⟩ := exists_typed hp
  rw [haccepts, haccepts, Schema.selected_congr h]

namespace Expression

variable {e : Expression} {p : Predicate}

theorem mem_roots {name : String} :
    name ∈ e.roots schema
      ↔ ∃ c ∈ e.comparisons, schema.root? c.path = some name :=
  List.mem_filterMap

/-- Records that answer alike for the roots are accepted alike. -/
theorem accepts_congr (h : e.compile schema = .ok p)
    (hroots : ∀ name ∈ e.roots schema, record name = record' name) :
    p.accepts record = p.accepts record' := by
  cases e with
  | empty =>
      cases h
      rfl
  | formula f =>
      rw [Bool.eq_iff_iff, accepts_of_compile h, accepts_of_compile h]
      refine Formula.satisfied_congr fun c hc =>
        Comparison.accepts_congr fun name hname => ?_
      exact hroots name (mem_roots.mpr ⟨c, hc, hname⟩)

end Expression

-- ============================================================= documents

namespace Document

/-- The document without a field. -/
def without (d : Document) (name : String) : Document :=
  ⟨d.fields.filter fun entry => entry.1 ≠ name⟩

private theorem lookup_cons_eq_ite (name asked : String)
    (field : DocumentField) (rest : List (String × DocumentField)) :
    List.lookup asked ((name, field) :: rest)
      = if asked = name then some field else List.lookup asked rest := by
  rw [List.lookup_cons]
  by_cases h : asked = name
  · rw [if_pos h, beq_iff_eq.mpr h]
  · rw [if_neg h, beq_eq_false_iff_ne.mpr h]

/-- A document answers with the field of exactly the name asked for. -/
theorem record_apply (d : Document) (asked : String) :
    d.record asked = (d.get? asked).elim .missing DocumentField.slot := by
  obtain ⟨fields⟩ := d
  rw [Document.record, get?]
  dsimp only
  induction fields with
  | nil => rfl
  | cons entry rest ih =>
      rw [DocumentField.read, lookup_cons_eq_ite]
      dsimp only
      rw [ih]
      by_cases hasked : asked = entry.1
      · rw [if_pos hasked, if_pos hasked, Option.elim_some]
      · rw [if_neg hasked, if_neg hasked]

/-- Setting a field changes the answer for its name. -/
theorem get?_insert (d : Document) (name asked : String)
    (field : DocumentField) :
    (d.insert name field).get? asked
      = if asked = name then some field else d.get? asked := by
  obtain ⟨fields⟩ := d
  unfold insert get?
  dsimp only
  induction fields with
  | nil => rw [insertField, lookup_cons_eq_ite]
  | cons entry rest ih =>
      obtain ⟨other, content⟩ := entry
      rw [insertField]
      by_cases hother : name = other
      · -- the field of the name, which hides the one in its place
        subst hother
        rw [if_pos rfl, lookup_cons_eq_ite, lookup_cons_eq_ite]
        grind
      · rw [if_neg hother]
        split
        · rw [lookup_cons_eq_ite]
        · rw [lookup_cons_eq_ite, lookup_cons_eq_ite, ih]
          grind

/-- Taking a field away leaves none of its name. -/
theorem get?_without (d : Document) (name asked : String) :
    (d.without name).get? asked
      = if asked = name then none else d.get? asked := by
  obtain ⟨fields⟩ := d
  unfold without get?
  dsimp only
  induction fields with
  | nil => rw [List.filter_nil, List.lookup_nil, ite_self]
  | cons entry rest ih =>
      obtain ⟨other, content⟩ := entry
      by_cases hother : other = name
      · rw [List.filter_cons_of_neg (by simpa using hother), ih,
          lookup_cons_eq_ite]
        grind
      · rw [List.filter_cons_of_pos (by simpa using hother),
          lookup_cons_eq_ite, lookup_cons_eq_ite, ih]
        grind

end Document

namespace Expression

variable {e : Expression} {p : Predicate}

/-- A predicate looks at no field of a document but the roots of its
expression, in their declared spelling. Documents that agree on these are
accepted alike; so to set any other field, whether it is there or not, or to
take it away, decides nothing. -/
theorem accepts_document_congr (h : e.compile schema = .ok p) :
    (∀ d d' : Document, (∀ name ∈ e.roots schema, d.get? name = d'.get? name) →
        p.accepts d.record = p.accepts d'.record)
      ∧ ∀ (d : Document) (name : String), name ∉ e.roots schema →
        (∀ field, p.accepts (d.insert name field).record = p.accepts d.record)
          ∧ p.accepts (d.without name).record = p.accepts d.record := by
  have hagree : ∀ d d' : Document,
      (∀ name ∈ e.roots schema, d.get? name = d'.get? name) →
      p.accepts d.record = p.accepts d'.record := by
    intro d d' hroots
    refine accepts_congr h fun name hname => ?_
    rw [Document.record_apply, Document.record_apply, hroots name hname]
  refine ⟨hagree, fun d name hname => ⟨fun field => ?_, ?_⟩⟩
  · refine hagree _ _ fun root hroot => ?_
    have hne : root ≠ name := fun heq => hname (heq ▸ hroot)
    rw [Document.get?_insert, if_neg hne]
  · refine hagree _ _ fun root hroot => ?_
    have hne : root ≠ name := fun heq => hname (heq ▸ hroot)
    rw [Document.get?_without, if_neg hne]

/-- A field that is spelled as in the query, and not as declared, is not
looked at. -/
theorem accepts_document_congr_done :
    ∃ p,
      (Comparison.alone
        ⟨⟨[⟨"DONE", []⟩]⟩, .equal, .bare "true", .bool⟩).compile
          ⟨"Trip", [.scalar .bool "done"]⟩ = .ok p
      ∧ ∀ d field, p.accepts (Document.insert d "DONE" field).record
        = p.accepts d.record := by
  have hcompile : (Comparison.alone
      ⟨⟨[⟨"DONE", []⟩]⟩, .equal, .bare "true", .bool⟩).compile
        ⟨"Trip", [.scalar .bool "done"]⟩ = .ok _ := rfl
  have hroots :
      (Comparison.alone ⟨⟨[⟨"DONE", []⟩]⟩, .equal, .bare "true", .bool⟩).roots
        ⟨"Trip", [.scalar .bool "done"]⟩ = ["done"] := rfl
  have hname : "DONE" ∉ (Comparison.alone
      ⟨⟨[⟨"DONE", []⟩]⟩, .equal, .bare "true", .bool⟩).roots
        ⟨"Trip", [.scalar .bool "done"]⟩ := by
    rw [hroots]
    decide
  exact ⟨_, hcompile,
    fun d => ((accepts_document_congr hcompile).2 d "DONE" hname).1⟩

end Expression

end RecordFilter
