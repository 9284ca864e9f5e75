/-
Spelling of keys and order of declarations, as far as queries go. A key that
spells the names of another in a different case, asked of a schema that
declares the same fields in a different order, asks the same: the two queries
accept the same records, or fail for the same cause.

# Two paths

The argument is about two paths, each with its schema, that lead to the
same (`Path.Alike`): either to nothing, or to places that differ in the order
of fields at most. The comparisons of the two queries then differ in nothing
but the path, and

- compilation takes from a path the declared names and the subscripts, so
  that the checks are equal, and errors differ in the path that they name
  (`compile_withPath`);
- a name contributes the comparisons of its own path, for the same tokens
  (`comparisons_respelled`).

That respelled names lead to the same is where validity comes in, and it
comes in nowhere else.
-/
import RecordFilter.Proofs.Negation
import RecordFilter.Proofs.Reordering

namespace RecordFilter

open Formula (failure? failure?_eq_some_iff failure?_eq_none_iff)

variable {schema schema' : Schema}

-- ================================================================= paths

/-- Paths of two schemas that lead to the same, with the same subscripts. -/
structure Path.Alike (schema schema' : Schema) (path path' : Path) : Prop where
  resolved : Option.Rel Resolution.Reordered (schema.resolve? path.names)
    (schema'.resolve? path'.names)
  subscripts : path.segments.map Segment.subscripts
    = path'.segments.map Segment.subscripts

/-- Of a path its subscripts go into the steps, and not its names. -/
theorem Resolution.steps_eq (r : Resolution) (path : Path) :
    r.steps path = List.zipWith Step.mk r.fields
      (path.segments.map Segment.subscripts) := by
  rw [steps, List.zipWith_map_right]

theorem Resolution.Reordered.leaf?_eq {r r' : Resolution}
    (h : r.Reordered r') :
    r.leaf? = r'.leaf? := by
  have hterminal := h.terminal
  unfold leaf?
  generalize r.terminal = terminal at hterminal
  generalize r'.terminal = terminal' at hterminal
  cases hterminal <;> rfl

-- =========================================================== comparisons

namespace Comparison

variable {c : Comparison} {path path' : Path}

/-- Of paths that lead to the same, a comparison compiles to the same
check, and fails as it did. -/
theorem compile_withPath (hpath : c.path = path)
    (h : Path.Alike schema schema' path path') :
    (c.withPath path').compile schema'
      = (c.compile schema).mapError (CompileError.withPath path') := by
  subst hpath
  have hpath' : (c.withPath path').path = path' := rfl
  have hresolved := h.resolved
  unfold Comparison.compile
  rw [hpath']
  generalize schema.resolve? c.path.names = r? at hresolved
  generalize schema'.resolve? path'.names = r'? at hresolved
  cases hresolved with
  | none => rfl
  | @some r r' hr =>
      have hterminal := hr.terminal
      -- what is read are declared names, and no longer those of the paths
      have hsteps : r.steps c.path = r'.steps path' := by
        rw [Resolution.steps_eq, Resolution.steps_eq, hr.fields, h.subscripts]
      unfold Resolution.steps at hsteps
      dsimp only
      generalize r.terminal = terminal at hterminal
      generalize r'.terminal = terminal' at hterminal
      cases hterminal with
      | record _ => rfl
      | leaf kind =>
          dsimp only
          rw [test_withPath, hr.nullable, hsteps]
          cases c.test kind r'.nullable <;> rfl

theorem accepts_withPath_iff (hpath : c.path = path)
    (h : Path.Alike schema schema' path path') (record : Record) :
    (c.withPath path').Accepts schema' record ↔ c.Accepts schema record := by
  rw [accepts_iff, accepts_iff, compile_withPath hpath h]
  simp only [Formula.mapError_eq_ok_iff]

end Comparison

-- ================================================================== keys

/-- Keys that differ in how they spell names and in nothing else. -/
structure Key.Respelled (key key' : Key) : Prop where
  names : List.Forall₂ (fun a b => sameName a b = true) key.path.names
    key'.path.names
  subscripts : key.path.segments.map Segment.subscripts
    = key'.path.segments.map Segment.subscripts
  operator : key.operator = key'.operator

/-- In a valid schema, respelled keys lead to the same. -/
theorem Key.Respelled.alike {key key' : Key} (h : key.Respelled key')
    (hvalid : schema.Valid) (hreordered : schema.Reordered schema') :
    Path.Alike schema schema' key.path key'.path where
  resolved := hreordered.resolve? hvalid h.names
  subscripts := h.subscripts

namespace Parameter

variable {config : Config} {name name' : String} {values : List String}

theorem path_of_mem_comparisons {entry : Parameter} {c : Comparison}
    (hc : c ∈ entry.comparisons schema config) : c.path = entry.key.path := by
  obtain ⟨r, kind, -, token, -, rfl⟩ := mem_comparisons_iff.mp hc
  rfl

/-- A name that leads to the same contributes the same comparisons, of its
own path. -/
theorem comparisons_respelled (hname : name ∉ config.ignored)
    (hname' : name' ∉ config.ignored)
    (hoperator : (Key.parse name).operator = (Key.parse name').operator)
    (h : Path.Alike schema schema' (Key.parse name).path
      (Key.parse name').path) :
    comparisons schema' config ⟨name', values⟩
      = (comparisons schema config ⟨name, values⟩).map
          (Comparison.withPath (Key.parse name').path) := by
  have hheeded : config.ignores name = false := by
    simpa [Config.ignores] using hname
  have hheeded' : config.ignores name' = false := by
    simpa [Config.ignores] using hname'
  have htokens : Expression.tokens config ⟨name', values⟩
      = Expression.tokens config ⟨name, values⟩ := rfl
  have hresolved := h.resolved
  unfold comparisons comparison?
  dsimp only [key]
  rw [hheeded, hheeded', if_neg Bool.false_ne_true, if_neg Bool.false_ne_true,
    htokens, List.map_filterMap, ← hoperator]
  refine List.filterMap_congr fun token _ => ?_
  generalize schema.resolve? (Key.parse name).path.names = r? at hresolved
  generalize schema'.resolve? (Key.parse name').path.names = r'? at hresolved
  cases hresolved with
  | none => rfl
  | some hr =>
      rw [Option.bind_some, Option.bind_some, Comparison.ofToken?,
        Comparison.ofToken?, hr.leaf?_eq, Option.map_map]
      rfl

end Parameter

-- =============================================================== queries

namespace Expression

variable {config : Config} {name name' value : String}

/-- Names that lead to the same fail alike, each with its own path. -/
theorem failure?_ask_respelled (value : String)
    (hname : name ∉ config.ignored) (hname' : name' ∉ config.ignored)
    (hoperator : (Key.parse name).operator = (Key.parse name').operator)
    (h : Path.Alike schema schema' (Key.parse name).path
      (Key.parse name').path) :
    failure? (ask schema' config name' value)
      = (failure? (ask schema config name value)).map
          (CompileError.withPath (Key.parse name').path) := by
  rw [failure?_ask_eq, failure?_ask_eq,
    Parameter.comparisons_respelled hname hname' hoperator h,
    List.findSome?_map, List.map_findSome?, ← List.head?_filterMap,
    ← List.head?_filterMap]
  -- as the first of a list: `findSome?` gives no membership to compare by
  refine congrArg List.head? (List.filterMap_congr fun c hc => ?_)
  rw [Function.comp_apply, Function.comp_apply,
    Comparison.compile_withPath (Parameter.path_of_mem_comparisons hc) h,
    Formula.failure?_mapError]

/-- Names that lead to the same accept alike. -/
theorem accepts_ask_respelled (hname : name ∉ config.ignored)
    (hname' : name' ∉ config.ignored)
    (hoperator : (Key.parse name).operator = (Key.parse name').operator)
    (h : Path.Alike schema schema' (Key.parse name).path
      (Key.parse name').path)
    {p p' : Predicate} (hp : ask schema config name value = .ok p)
    (hp' : ask schema' config name' value = .ok p') (record : Record) :
    p.accepts record = p'.accepts record := by
  rw [Bool.eq_iff_iff, accepts_ask_iff hp, accepts_ask_iff hp',
    Parameter.comparisons_respelled hname hname' hoperator h, ne_eq, ne_eq,
    List.map_eq_nil_iff]
  simp only [List.mem_map, exists_exists_and_eq_and]
  refine imp_congr_right fun _ => exists_congr fun c =>
    and_congr_right fun hc => ?_
  exact (Comparison.accepts_withPath_iff
    (Parameter.path_of_mem_comparisons hc) h record).symm

/-- In a valid schema neither the order of fields matters nor the case in
which a query spells them. With its fields declared in another order, here
or further in, the schema is still valid; names that are the same resolve to
the same, or both to nothing; and keys that differ in the spelling of names
alone make queries of which both compile, and accept the same records, or
both fail, for the same cause. -/
theorem ask_respelled (hvalid : schema.validate = .ok ())
    (hreordered : schema.Reordered schema') :
    schema'.validate = .ok ()
      ∧ (∀ names names',
        List.Forall₂ (fun a b => sameName a b = true) names names' →
        Option.Rel Resolution.Reordered (schema.resolve? names)
          (schema'.resolve? names'))
      ∧ ∀ (config : Config) (name name' : String), name ∉ config.ignored →
        name' ∉ config.ignored →
        (Key.parse name).Respelled (Key.parse name') → ∀ value,
        (∃ p p', ask schema config name value = .ok p
            ∧ ask schema' config name' value = .ok p'
            ∧ ∀ record, p.accepts record = p'.accepts record)
          ∨ ∃ e e', ask schema config name value = .error e
            ∧ ask schema' config name' value = .error e'
            ∧ e'.cause = e.cause := by
  rw [Schema.validate_eq_ok_iff] at hvalid
  refine ⟨Schema.validate_eq_ok_iff.mpr (hreordered.valid hvalid),
    fun names names' hnames => hreordered.resolve? hvalid hnames, ?_⟩
  intro config name name' hname hname' hkeys value
  have halike := hkeys.alike hvalid hreordered
  have hfailure :=
    failure?_ask_respelled value hname hname' hkeys.operator halike
  cases hask : ask schema config name value with
  | ok p =>
      rw [hask, Formula.failure?_ok, Option.map_none,
        failure?_eq_none_iff] at hfailure
      obtain ⟨p', hask'⟩ := hfailure
      exact .inl ⟨p, p', rfl, hask',
        accepts_ask_respelled hname hname' hkeys.operator halike hask hask'⟩
  | error e =>
      rw [hask, Formula.failure?_error, Option.map_some,
        failure?_eq_some_iff] at hfailure
      exact .inr ⟨e, _, rfl, hfailure, CompileError.cause_withPath _ e⟩

/-- Two orders at both depths, and two spellings of a nested name. -/
theorem ask_respelled_legs :
    ∃ p p',
      ask ⟨"Trip", [.scalar .int "id", .records "legs"
        ⟨"Leg", [.scalar .text "status", .scalar .bool "done"]⟩]⟩
        .standard "legs.done!" "true" = .ok p
      ∧ ask ⟨"Trip", [.records "legs"
        ⟨"Leg", [.scalar .bool "done", .scalar .text "status"]⟩,
        .scalar .int "id"]⟩ .standard "LEGS-Done!" "true" = .ok p'
      ∧ ∀ record, p.accepts record = p'.accepts record := by
  have hkey : Key.parse "legs.done!"
      = ⟨⟨[⟨"legs", []⟩, ⟨"done", []⟩]⟩, .notEqual⟩ := by cbv
  have hkey' : Key.parse "LEGS-Done!"
      = ⟨⟨[⟨"LEGS", []⟩, ⟨"Done", []⟩]⟩, .notEqual⟩ := by cbv
  have hrespelled :
      (Key.parse "legs.done!").Respelled (Key.parse "LEGS-Done!") := by
    rw [hkey, hkey']
    exact ⟨.cons rfl (.cons rfl .nil), rfl, rfl⟩
  have hlegs : Schema.Reordered
      ⟨"Leg", [.scalar .text "status", .scalar .bool "done"]⟩
      ⟨"Leg", [.scalar .bool "done", .scalar .text "status"]⟩ :=
    .mk (.cons (.mk (.leaf _)) (.cons (.mk (.leaf _)) .nil)) (.swap ..)
  have hreordered : Schema.Reordered
      ⟨"Trip", [.scalar .int "id", .records "legs"
        ⟨"Leg", [.scalar .text "status", .scalar .bool "done"]⟩]⟩
      ⟨"Trip", [.records "legs"
        ⟨"Leg", [.scalar .bool "done", .scalar .text "status"]⟩,
        .scalar .int "id"]⟩ :=
    .mk (.cons (.mk (.leaf _)) (.cons (.mk (.list (.record hlegs))) .nil))
      (.swap ..)
  have hcompiles :
      failure? (ask ⟨"Trip", [.scalar .int "id", .records "legs"
        ⟨"Leg", [.scalar .text "status", .scalar .bool "done"]⟩]⟩
        .standard "legs.done!" "true") = none := by
    have heffective : ∀ value, Parameter.Effective
        ⟨"Trip", [.scalar .int "id", .records "legs"
          ⟨"Leg", [.scalar .text "status", .scalar .bool "done"]⟩]⟩
        .standard ⟨"legs.done!", [value]⟩
        ⟨["legs", "done"], .leaf .bool, false, true⟩ .bool :=
      effective_of_parse hkey List.not_mem_nil rfl rfl
    have htokens : Config.tokens .standard "true" = ["true"] := by cbv
    rw [(heffective "true").failure?_ask, htokens, hkey]
    rfl
  rcases (ask_respelled rfl hreordered).2.2 .standard _ _ List.not_mem_nil
    List.not_mem_nil hrespelled "true" with haccepts | ⟨e, -, herror, -⟩
  · exact haccepts
  · rw [failure?_eq_some_iff.mpr herror] at hcompiles
    cases hcompiles

end Expression

end RecordFilter
