/-
Resolution as a route through schemas. Names lead from field to field: each
is looked up in the record type that the field before it holds, whatever
layers of collections are around that. `Schema.Route` says which fields they
lead along, and `Resolution.ofRoute` what a resolution tells of these: the
declared names of all, whether there is a collection among them, and of the
last what it leads to and whether it may be null.

# Cutting a route

A route can be cut between any two names. The front part must lead to a
record, and the rest starts anew in the type of that record, knowing nothing
of how it was reached (`Schema.resolve?_append`).

# The steps of a path

A resolution has one declared name for each name, so that pairing the
declared names with the segments of a path leaves out neither a name nor a
segment with its subscripts (`Resolution.forall₂_steps`).

Nothing is assumed of the schema. Where it declares a name twice, the first
declaration is meant, here as in every look-up.
-/
import Mathlib.Data.List.Forall2
import RecordFilter.Proofs.Typing

namespace RecordFilter

variable {schema : Schema} {names : List String} {fields : List Field}
  {r : Resolution}

-- ================================================================ routes

/-- The fields that names lead along: each is found in the record type that
the field before it holds, the first in the schema itself. -/
inductive Schema.Route : Schema → List String → List Field → Prop where
  | last {schema : Schema} {name : String} {field : Field}
      (hfield : schema.field? name = some field) :
      Schema.Route schema [name] [field]
  | onward {schema nested : Schema} {name : String} {names : List String}
      {field : Field} {fields : List Field}
      (hfield : schema.field? name = some field)
      (hkind : field.kind.terminal = .record nested)
      (hrest : Schema.Route nested names fields) :
      Schema.Route schema (name :: names) (field :: fields)

/-- What is told of the fields of a route and the last of them. -/
def Resolution.ofRoute (fields : List Field) (last : Field) : Resolution where
  fields := fields.map Field.name
  terminal := last.kind.terminal
  nullable := last.nullable
  collection := fields.any fun field => field.kind.isCollection

/-- A route of one field resolves to that field. -/
theorem Resolution.ofRoute_singleton (last : Field) :
    ofRoute [last] last = ofField last := by
  simp [ofRoute, ofField]

theorem Resolution.ofRoute_cons (field : Field) (fields : List Field)
    (last : Field) :
    ofRoute (field :: fields) last = below field (ofRoute fields last) := rfl

/-- The record type that names lead to, if they do lead to a record. -/
def Terminal.record? : Terminal → Option Schema
  | .leaf _ => none
  | .record schema => some schema

/-- A path goes on in a record and nowhere else. -/
theorem Terminal.record?_eq_some_iff {terminal : Terminal} :
    terminal.record? = some schema ↔ terminal = .record schema := by
  cases terminal <;> simp [record?]

namespace Schema

/-- A field that is found has the name that was looked for, in some
spelling. -/
theorem sameName_of_field? {name : String} {field : Field}
    (h : schema.field? name = some field) :
    sameName field.name name = true := by
  have hfound := List.find?_some h
  exact hfound

/-- A field of a route has the name by which it was looked up. -/
theorem Route.forall₂ (h : schema.Route names fields) :
    List.Forall₂ (fun field name => sameName field.name name = true)
      fields names := by
  induction h with
  | last hfield => exact .cons (sameName_of_field? hfield) .nil
  | onward hfield _ _ ih => exact .cons (sameName_of_field? hfield) ih

/-- The first name is looked up in the schema itself. -/
theorem Route.head? (h : schema.Route names fields) :
    fields.head? = names.head?.bind schema.field? := by
  cases h with
  | last hfield => exact hfield.symm
  | onward hfield _ _ => exact hfield.symm

theorem Route.ne_nil (h : schema.Route names fields) : fields ≠ [] := by
  cases h <;> exact List.cons_ne_nil _ _

/-- With further names, the first must lead to a record. -/
theorem resolve?_cons (schema : Schema) (name : String) (h : names ≠ []) :
    schema.resolve? (name :: names)
      = (schema.field? name).bind fun field =>
        field.kind.terminal.record?.bind fun nested =>
          (nested.resolve? names).map (Resolution.below field) := by
  obtain ⟨next, rest, rfl⟩ := List.exists_cons_of_ne_nil h
  rw [resolve?]
  cases schema.field? name with
  | none => rfl
  | some field =>
      dsimp only [Option.bind_some]
      cases field.kind.terminal <;> rfl

/-- What names resolve to is told of their route. -/
theorem resolve?_eq_some_iff :
    schema.resolve? names = some r
      ↔ ∃ fields last, schema.Route names fields ∧ fields.getLast? = some last
        ∧ r = .ofRoute fields last := by
  constructor
  · intro h
    fun_induction Schema.resolve? schema names generalizing r with
    | case1 => cases h
    | case2 schema name =>
        obtain ⟨last, hlast, rfl⟩ := Option.map_eq_some_iff.mp h
        exact ⟨[last], last, .last hlast, rfl,
          (Resolution.ofRoute_singleton last).symm⟩
    | case3 | case4 => cases h
    | case5 schema name next rest field hfield nested hkind ih =>
        obtain ⟨inner, hinner, rfl⟩ := Option.map_eq_some_iff.mp h
        obtain ⟨fields, last, hroute, hlast, rfl⟩ := ih hinner
        refine ⟨field :: fields, last, .onward hfield hkind hroute, ?_,
          (Resolution.ofRoute_cons field fields last).symm⟩
        rw [List.getLast?_cons, hlast, Option.getD_some]
  · rintro ⟨fields, last, hroute, hlast, rfl⟩
    induction hroute with
    | last hfield =>
        cases hlast
        rw [resolve?, hfield, Option.map_some]
        exact congrArg some (Resolution.ofRoute_singleton _).symm
    | @onward schema nested name names field fields hfield hkind hrest ih =>
        obtain ⟨first, rest, rfl⟩ := List.exists_cons_of_ne_nil hrest.ne_nil
        have hnames : names ≠ [] := by
          rintro rfl
          cases hrest.forall₂
        rw [List.getLast?_cons_cons] at hlast
        rw [resolve?_cons schema name hnames, hfield, Option.bind_some, hkind]
        dsimp only [Terminal.record?, Option.bind_some]
        rw [ih hlast, Option.map_some, Resolution.ofRoute_cons field]

/-- A resolution has one declared name for each name, the same but for
case. -/
theorem forall₂_fields (h : schema.resolve? names = some r) :
    List.Forall₂ (fun declared name => sameName declared name = true)
      r.fields names := by
  obtain ⟨fields, last, hroute, -, rfl⟩ := resolve?_eq_some_iff.mp h
  exact List.forall₂_map_left_iff.mpr hroute.forall₂

end Schema

-- ========================================================= composition

/-- What is told of a route and of one that goes on from its end, of both
together. -/
def Resolution.append (front behind : Resolution) : Resolution where
  fields := front.fields ++ behind.fields
  terminal := behind.terminal
  nullable := behind.nullable
  collection := front.collection || behind.collection

/-- What further names come to behind those of a resolution, which must have
led to a record. -/
def Resolution.onward (r : Resolution) (names : List String) :
    Option Resolution :=
  r.terminal.record?.bind fun nested => (nested.resolve? names).map r.append

/-- A field in front of two joined resolutions stands in front of the first. -/
theorem Resolution.append_below (field : Field) (front behind : Resolution) :
    (below field front).append behind = below field (front.append behind) := by
  simp [append, below, Bool.or_assoc]

/-- Going on from a resolution leaves the fields in front as they are. -/
theorem Resolution.onward_below (field : Field) (r : Resolution)
    (names : List String) :
    (below field r).onward names = (r.onward names).map (below field) := by
  have hterminal : (below field r).terminal = r.terminal := rfl
  unfold onward
  rw [hterminal]
  cases r.terminal.record? with
  | none => rfl
  | some nested =>
      dsimp only [Option.bind_some]
      rw [Option.map_map]
      exact congrArg (Option.map · _)
        (funext fun inner => append_below field r inner)

/-- The names behind a cut are resolved in the record type that those in
front of it lead to. -/
theorem Schema.resolve?_append (schema : Schema) {front behind : List String}
    (hfront : front ≠ []) (hbehind : behind ≠ []) :
    schema.resolve? (front ++ behind)
      = (schema.resolve? front).bind fun r => r.onward behind := by
  induction front generalizing schema with
  | nil => exact absurd rfl hfront
  | cons name rest ih =>
      cases rest with
      | nil =>
          rw [List.singleton_append, resolve?_cons schema name hbehind,
            resolve?]
          cases schema.field? name <;> rfl
      | cons next rest =>
          have hrest : next :: rest ≠ [] := List.cons_ne_nil _ _
          rw [List.cons_append, resolve?_cons schema name hrest,
            resolve?_cons schema name
              (List.append_ne_nil_of_left_ne_nil hrest _)]
          cases schema.field? name with
          | none => rfl
          | some field =>
              dsimp only [Option.bind_some]
              cases field.kind.terminal.record? with
              | none => rfl
              | some nested =>
                  -- the names in front, too, lead through a record here
                  dsimp only [Option.bind_some]
                  rw [ih nested hrest]
                  cases nested.resolve? (next :: rest) with
                  | none => rfl
                  | some r =>
                      exact (Resolution.onward_below field r behind).symm

-- ================================================================= steps

namespace Resolution

variable {path : Path}

/-- A path takes one step for each of its segments, with the name of the
segment but for case, and with all its subscripts. -/
theorem forall₂_steps (h : schema.resolve? path.names = some r) :
    List.Forall₂ (fun step segment =>
        sameName step.field segment.name = true
          ∧ step.subscripts = segment.subscripts)
      (r.steps path) path.segments := by
  have hfields := List.forall₂_map_right_iff.mp (Schema.forall₂_fields h)
  unfold steps
  generalize r.fields = fields at hfields
  generalize path.segments = segments at hfields
  induction hfields with
  | nil => exact .nil
  | cons hname _ ih => exact .cons ⟨hname, rfl⟩ ih

/-- A path that resolves has one field for each of its segments. -/
theorem length_fields (h : schema.resolve? path.names = some r) :
    r.fields.length = path.segments.length := by
  rw [(Schema.forall₂_fields h).length_eq, Path.names, List.length_map]

/-- The steps of a path are by the declared names. -/
theorem map_field_steps (h : schema.resolve? path.names = some r) :
    (r.steps path).map Step.field = r.fields := by
  rw [steps, List.map_zipWith, ← List.map_uncurry_zip_eq_zipWith]
  exact List.map_fst_zip (Nat.le_of_eq (length_fields h))

/-- The steps of a path have the subscripts that its segments have. -/
theorem map_subscripts_steps (h : schema.resolve? path.names = some r) :
    (r.steps path).map Step.subscripts
      = path.segments.map Segment.subscripts := by
  have hsteps := (forall₂_steps h).imp fun _ _ hstep => hstep.2
  rw [← List.forall₂_eq_eq_eq, List.forall₂_map_left_iff,
    List.forall₂_map_right_iff]
  exact hsteps

end Resolution

-- ============================================================ resolution

namespace Schema

/-- Resolution composes. Names with a cut among them resolve only if those
in front of it lead to a record, and then to what the rest resolves to in
the type of that record, behind what was passed on the way. No names resolve
to nothing. What names do resolve to is told of the fields that they lead
along, one for each name, and a collection is crossed exactly if one of
these fields is one; so each segment of a path makes a step of what a
comparison compiles to. -/
theorem resolve?_composes (schema : Schema) :
    schema.resolve? [] = none
      ∧ (∀ front behind, front ≠ [] → behind ≠ [] →
        ((∀ r nested, schema.resolve? front = some r →
            r.terminal ≠ .record nested) →
          schema.resolve? (front ++ behind) = none)
        ∧ ∀ r nested, schema.resolve? front = some r →
          r.terminal = .record nested →
          schema.resolve? (front ++ behind)
            = (nested.resolve? behind).map r.append)
      ∧ (∀ names r, schema.resolve? names = some r
        ↔ ∃ fields last, schema.Route names fields
          ∧ fields.getLast? = some last ∧ r = .ofRoute fields last)
      ∧ (∀ names r, schema.resolve? names = some r →
        List.Forall₂ (fun declared name => sameName declared name = true)
          r.fields names
        ∧ ∃ fields, schema.Route names fields
          ∧ (r.collection = true
            ↔ ∃ field ∈ fields, field.kind.isCollection = true))
      ∧ ∀ (c : Comparison) check, c.compile schema = .ok check →
        ∃ r, schema.resolve? c.path.names = some r
          ∧ check.steps.map Step.field = r.fields
          ∧ List.Forall₂ (fun step segment =>
              sameName step.field segment.name = true
                ∧ step.subscripts = segment.subscripts)
            check.steps c.path.segments := by
  refine ⟨by rw [resolve?], ?_, fun names r => resolve?_eq_some_iff, ?_, ?_⟩
  · intro front behind hfront hbehind
    rw [resolve?_append schema hfront hbehind]
    constructor
    · intro hnone
      rw [Option.bind_eq_none_iff]
      intro r hr
      rw [Resolution.onward, Option.bind_eq_none_iff]
      intro nested hnested
      exact absurd (Terminal.record?_eq_some_iff.mp hnested)
        (hnone r nested hr)
    · intro r nested hr hnested
      rw [hr, Option.bind_some, Resolution.onward,
        Terminal.record?_eq_some_iff.mpr hnested, Option.bind_some]
  · intro names r h
    refine ⟨forall₂_fields h, ?_⟩
    obtain ⟨fields, last, hroute, -, rfl⟩ := resolve?_eq_some_iff.mp h
    exact ⟨fields, hroute, List.any_eq_true⟩
  · intro c check h
    obtain ⟨r, kind, test, htyped, rfl⟩ := Comparison.compile_eq_ok_iff.mp h
    exact ⟨r, htyped.resolved, Resolution.map_field_steps htyped.resolved,
      Resolution.forall₂_steps htyped.resolved⟩

/-- The status of the legs of a trip is that of a leg, behind a collection. -/
theorem resolve?_composes_legs :
    Schema.resolve?
        ⟨"Trip", [.records "legs" ⟨"Leg", [.scalar .text "status"]⟩]⟩
        ["Legs", "status"]
      = some ⟨["legs", "status"], .leaf .text, false, true⟩ := by
  obtain ⟨-, hcut, -⟩ :=
    resolve?_composes
      ⟨"Trip", [.records "legs" ⟨"Leg", [.scalar .text "status"]⟩]⟩
  have hlegs :=
    hcut ["Legs"] ["status"] (List.cons_ne_nil _ _) (List.cons_ne_nil _ _)
  exact hlegs.2 _ _ rfl rfl

end Schema

end RecordFilter
