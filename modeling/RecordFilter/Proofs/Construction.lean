/-
Construction of expressions from parameters, told by what each parameter
contributes. A parameter is effective if its name is not ignored and its
path leads to a scalar of the schema; an effective parameter contributes one
comparison for each of its tokens, any other parameter none.

# What is shown

- `comparisons_build`: the comparisons of an expression are those that its
  parameters contribute, parameter by parameter and token by token.
- `accepts_build_iff`: what an expression compiles to asks of every
  parameter that contributes anything that one of its comparisons accept.
- `forall₂_groups`: an expression has one group for each parameter that
  contributes.
- `Effective.failure?_compile`: the compiler finds the scalar that the
  builder found.

The empty expression accepts every record, so it matters that an effective
parameter cannot be lost: each has a value, a value has a token even if it
is empty, and no token of a scalar is without a comparison.
-/
import Mathlib.Data.List.Forall2
import RecordFilter.Proofs.Admission
import RecordFilter.Proofs.Compilation
import RecordFilter.Proofs.Parameters

namespace RecordFilter

open Formula (failure? failure?_eq_some_iff failure?_eq_none_iff)

variable {schema : Schema} {config : Config} {entry : Parameter}
  {r : Resolution} {kind : LeafKind}

theorem Resolution.leaf?_eq_some_iff :
    r.leaf? = some kind ↔ r.terminal = .leaf kind := by
  unfold leaf?
  cases r.terminal <;> simp

-- ============================================== parameters that count

namespace Parameter

/-- The key that the name of a parameter is. -/
abbrev key (entry : Parameter) : Key := Key.parse entry.name

/-- A parameter that counts, and the scalar it is about: its name is not
ignored, and its path leads there. -/
structure Effective (schema : Schema) (config : Config) (entry : Parameter)
    (r : Resolution) (kind : LeafKind) : Prop where
  heeded : entry.name ∉ config.ignored
  resolved : schema.resolve? entry.key.path.names = some r
  scalar : r.terminal = .leaf kind

/-- A parameter that counts, and has two tokens. -/
theorem effective_done :
    Effective ⟨"Trip", [.scalar .bool "done"]⟩ .standard
      ⟨"done", ["TRUE,false"]⟩ (.ofField (.scalar .bool "done")) .bool := by
  have hkey : Key.parse "done" = ⟨⟨[⟨"done", []⟩]⟩, .equal⟩ := by cbv
  refine ⟨List.not_mem_nil, ?_, rfl⟩
  rw [key, hkey]
  rfl

/-- Whether a parameter counts. -/
def isEffective (schema : Schema) (config : Config) (entry : Parameter) :
    Bool :=
  !config.ignores entry.name
    && ((schema.resolve? entry.key.path.names).bind Resolution.leaf?).isSome

/-- The comparison of a token of a parameter with what its path leads to. -/
def comparison? (schema : Schema) (entry : Parameter) (token : String) :
    Option Comparison :=
  (schema.resolve? entry.key.path.names).bind fun r =>
    Comparison.ofToken? entry.key.path r entry.key.operator token

/-- The comparisons that a parameter contributes. -/
def comparisons (schema : Schema) (config : Config) (entry : Parameter) :
    List Comparison :=
  if config.ignores entry.name then []
  else (Expression.tokens config entry).filterMap (entry.comparison? schema)

theorem isEffective_iff :
    entry.isEffective schema config = true
      ↔ ∃ r kind, entry.Effective schema config r kind := by
  unfold isEffective Config.ignores
  rw [Bool.and_eq_true, Bool.not_eq_true', ← Bool.not_eq_true,
    List.contains_iff_mem, Option.isSome_iff_exists]
  constructor
  · rintro ⟨hname, kind, hkind⟩
    obtain ⟨r, hr, hleaf⟩ := Option.bind_eq_some_iff.mp hkind
    exact ⟨r, kind, hname, hr, Resolution.leaf?_eq_some_iff.mp hleaf⟩
  · rintro ⟨r, kind, h⟩
    refine ⟨h.heeded, kind, ?_⟩
    rw [h.resolved]
    exact Resolution.leaf?_eq_some_iff.mpr h.scalar

theorem Effective.isEffective_eq (h : entry.Effective schema config r kind) :
    entry.isEffective schema config = true :=
  isEffective_iff.mpr ⟨r, kind, h⟩

/-- A scalar can be compared with every token. -/
theorem Effective.ofToken?_eq (h : entry.Effective schema config r kind)
    (token : String) :
    Comparison.ofToken? entry.key.path r entry.key.operator token
      = some (Comparison.ofToken entry.key.path kind entry.key.operator
        token) := by
  rw [Comparison.ofToken?, Resolution.leaf?_eq_some_iff.mpr h.scalar]
  rfl

/-- No token of an effective parameter is without a comparison. -/
theorem Effective.comparison?_eq (h : entry.Effective schema config r kind)
    (token : String) :
    entry.comparison? schema token
      = some (Comparison.ofToken entry.key.path kind entry.key.operator
        token) := by
  rw [comparison?, h.resolved, Option.bind_some, h.ofToken?_eq]

/-- An effective parameter contributes one comparison for each token. -/
theorem Effective.comparisons_eq (h : entry.Effective schema config r kind) :
    entry.comparisons schema config
      = (Expression.tokens config entry).map
          (Comparison.ofToken entry.key.path kind entry.key.operator) := by
  have hname : config.ignores entry.name = false := by
    simpa [Config.ignores] using h.heeded
  have hsome : entry.comparison? schema
      = fun token => some
        (Comparison.ofToken entry.key.path kind entry.key.operator token) :=
    funext h.comparison?_eq
  rw [comparisons, hname, if_neg Bool.false_ne_true, hsome]
  exact congrFun List.filterMap_eq_map' _

/-- Any other parameter contributes none. -/
theorem comparisons_eq_nil (h : entry.isEffective schema config = false) :
    entry.comparisons schema config = [] := by
  unfold comparisons
  split
  · rfl
  · next hname =>
    rw [List.filterMap_eq_nil_iff]
    intro token _
    have hnone : (schema.resolve? entry.key.path.names).bind Resolution.leaf?
        = none := by
      simpa [isEffective, hname] using h
    unfold comparison? Comparison.ofToken?
    rw [Option.bind_eq_none_iff] at hnone ⊢
    intro r hr
    rw [hnone r hr]
    rfl

/-- A parameter with a value has a token. -/
theorem tokens_ne_nil (h : entry.values ≠ []) :
    Expression.tokens config entry ≠ [] := by
  have htokens : entry.tokens config.delimiter ≠ [] := by
    unfold Parameter.tokens
    cases hvalues : entry.values with
    | nil => exact absurd hvalues h
    | cons value rest =>
        rw [List.flatMap_cons]
        apply List.append_ne_nil_of_left_ne_nil
        rw [ne_eq, List.map_eq_nil_iff]
        exact List.splitOn_ne_nil _ _
  unfold Expression.tokens
  split
  · rwa [ne_eq, List.map_eq_nil_iff]
  · exact htokens

/-- A parameter is effective or contributes nothing. -/
theorem idle_or_effective (schema : Schema) (config : Config)
    (entry : Parameter) :
    (entry.isEffective schema config = false
      ∧ entry.comparisons schema config = [])
      ∨ ∃ r kind, entry.Effective schema config r kind := by
  cases heffective : entry.isEffective schema config with
  | false => exact .inl ⟨rfl, comparisons_eq_nil heffective⟩
  | true => exact .inr (isEffective_iff.mp heffective)

/-- Among parameters with values, the effective ones are those that
contribute. -/
theorem comparisons_ne_nil_iff (h : entry.values ≠ []) :
    entry.comparisons schema config ≠ []
      ↔ ∃ r kind, entry.Effective schema config r kind := by
  constructor
  · intro hne
    rcases entry.idle_or_effective schema config with ⟨-, hnil⟩ | heffective
    · exact absurd hnil hne
    · exact heffective
  · rintro ⟨r, kind, he⟩
    rw [he.comparisons_eq, ne_eq, List.map_eq_nil_iff]
    exact tokens_ne_nil h

/-- Whatever a parameter contributes is the comparison of one of its tokens
with the scalar that it is about. -/
theorem mem_comparisons_iff {c : Comparison} :
    c ∈ entry.comparisons schema config ↔
      ∃ r kind, entry.Effective schema config r kind
        ∧ ∃ token ∈ Expression.tokens config entry,
          Comparison.ofToken entry.key.path kind entry.key.operator token
            = c := by
  constructor
  · intro h
    rcases entry.idle_or_effective schema config with ⟨-, hnil⟩ | ⟨r, kind, he⟩
    · rw [hnil] at h
      cases h
    · rw [he.comparisons_eq, List.mem_map] at h
      exact ⟨r, kind, he, h⟩
  · rintro ⟨r, kind, he, h⟩
    rw [he.comparisons_eq, List.mem_map]
    exact h

end Parameter

-- ================================================================ groups

namespace Expression

theorem alternatives_eq_none_iff {cs : List Comparison} :
    alternatives cs = none ↔ cs = [] := by
  rcases cs with _ | ⟨c, _ | ⟨c', rest⟩⟩ <;> simp [alternatives]

/-- The atoms of a group are its comparisons. -/
theorem atoms_of_alternatives {cs : List Comparison}
    {group : Formula Comparison} (h : alternatives cs = some group) :
    group.atoms = cs := by
  unfold alternatives at h
  split at h
  · cases h
  · cases h
    rfl
  · cases h
    rw [Formula.atoms, Formula.atomsOf_map_atom]

/-- A group is satisfied where one of its comparisons is. -/
theorem satisfied_of_alternatives {cs : List Comparison}
    {group : Formula Comparison} {q : Comparison → Prop}
    (h : alternatives cs = some group) :
    group.Satisfied q ↔ ∃ c ∈ cs, q c := by
  unfold alternatives at h
  split at h
  · cases h
  · cases h
    simp
  · cases h
    simp

/-- The group of a parameter is made of its comparisons. -/
theorem group?_eq (schema : Schema) (config : Config) (entry : Parameter) :
    group? schema config entry
      = alternatives (entry.comparisons schema config) := by
  unfold group? Parameter.comparisons
  split
  · rfl
  · unfold Parameter.comparison?
    dsimp only
    cases schema.resolve? (Key.parse entry.name).path.names with
    | none =>
        rw [Option.bind_none, eq_comm, alternatives_eq_none_iff,
          List.filterMap_eq_nil_iff]
        intro token _
        rfl
    | some r => rfl

/-- A parameter makes no group exactly if it contributes nothing. -/
theorem group?_eq_none_iff :
    group? schema config entry = none
      ↔ entry.comparisons schema config = [] := by
  rw [group?_eq, alternatives_eq_none_iff]

theorem exists_group? (h : entry.comparisons schema config ≠ []) :
    ∃ group, group? schema config entry = some group :=
  Option.ne_none_iff_exists'.mp fun hnone => h (group?_eq_none_iff.mp hnone)

-- =========================================================== expressions

variable {params : Parameters}

theorem build_eq_empty_iff :
    build schema params config = empty
      ↔ ∀ entry ∈ params.entries, entry.comparisons schema config = [] := by
  unfold build
  simp only [← group?_eq_none_iff, ← List.filterMap_eq_nil_iff]
  split
  · next hnil => exact iff_of_true rfl hnil
  · next hne => exact iff_of_false (by simp) hne

/-- An expression that is not empty is the conjunction of all groups. -/
theorem eq_all_of_build {f : Formula Comparison}
    (h : build schema params config = formula f) :
    f = .all (params.entries.filterMap (group? schema config)) := by
  unfold build at h
  split at h
  · cases h
  · cases h
    rfl

theorem atomsOf_groups (schema : Schema) (config : Config)
    (entries : List Parameter) :
    Formula.atomsOf (entries.filterMap (group? schema config))
      = entries.flatMap (Parameter.comparisons schema config) := by
  induction entries with
  | nil => rfl
  | cons entry rest ih =>
      rw [List.flatMap_cons]
      cases hgroup : group? schema config entry with
      | none =>
          rw [List.filterMap_cons_none hgroup, group?_eq_none_iff.mp hgroup,
            ih, List.nil_append]
      | some group =>
          rw [List.filterMap_cons_some hgroup, Formula.atomsOf, ih]
          rw [group?_eq] at hgroup
          rw [atoms_of_alternatives hgroup]

/-- The comparisons of an expression are those that its parameters
contribute, in their order. -/
theorem comparisons_build (schema : Schema) (params : Parameters)
    (config : Config) :
    (build schema params config).comparisons
      = params.entries.flatMap (Parameter.comparisons schema config) := by
  rw [← atomsOf_groups]
  unfold build
  split
  · next hnil =>
    rw [hnil]
    rfl
  · rfl

/-- What an expression compiles to asks of each parameter that contributes
anything that one of its comparisons accept. -/
theorem accepts_build_iff {p : Predicate}
    (h : (build schema params config).compile schema = .ok p)
    (record : Record) :
    p.accepts record = true ↔ ∀ entry ∈ params.entries,
      entry.comparisons schema config ≠ []
        → ∃ c ∈ entry.comparisons schema config, c.Accepts schema record := by
  cases hbuild : build schema params config with
  | empty =>
      rw [hbuild] at h
      cases h
      have hnone := build_eq_empty_iff.mp hbuild
      refine iff_of_true rfl ?_
      intro entry hentry hne
      exact absurd (hnone entry hentry) hne
  | formula f =>
      rw [hbuild] at h
      rw [accepts_of_compile h record, eq_all_of_build hbuild,
        Formula.satisfied_all]
      constructor
      · intro hall entry hentry hne
        obtain ⟨group, hgroup⟩ := exists_group? hne
        have hsat :=
          hall group (List.mem_filterMap.mpr ⟨entry, hentry, hgroup⟩)
        rw [group?_eq] at hgroup
        exact (satisfied_of_alternatives hgroup).mp hsat
      · intro hall group hmem
        obtain ⟨entry, hentry, hgroup⟩ := List.mem_filterMap.mp hmem
        rw [group?_eq] at hgroup
        rw [satisfied_of_alternatives hgroup]
        refine hall entry hentry fun hnil => ?_
        rw [hnil] at hgroup
        cases hgroup

end Expression

-- ============================================== shape and resolution

namespace Parameter

/-- The group of a parameter: the comparison of its token if it has just
one, a choice between those of all its tokens if it has more. -/
inductive Group (schema : Schema) (config : Config) (entry : Parameter) :
    Formula Comparison → Prop where
  | single {token : String} {c : Comparison}
      (htokens : Expression.tokens config entry = [token])
      (hc : entry.comparison? schema token = some c) :
      Group schema config entry (.atom c)
  | several {cs : List Comparison}
      (hcs : (Expression.tokens config entry).map (entry.comparison? schema)
        = cs.map some)
      (hmany : 2 ≤ cs.length) :
      Group schema config entry (.any (cs.map .atom))

/-- Each token of an effective parameter has its comparison. -/
theorem Effective.map_comparison? (h : entry.Effective schema config r kind) :
    (Expression.tokens config entry).map (entry.comparison? schema)
      = (entry.comparisons schema config).map some := by
  rw [h.comparisons_eq, List.map_map]
  exact List.map_congr_left fun token _ => h.comparison?_eq token

/-- The alternatives of an effective parameter are its group. -/
theorem Effective.group (h : entry.Effective schema config r kind)
    {group : Formula Comparison}
    (hgroup : Expression.alternatives (entry.comparisons schema config)
      = some group) :
    Group schema config entry group := by
  have hcs := h.map_comparison?
  have hlength : (entry.comparisons schema config).length
      = (Expression.tokens config entry).length := by
    rw [h.comparisons_eq, List.length_map]
  unfold Expression.alternatives at hgroup
  split at hgroup
  · cases hgroup
  · next c hone =>
    cases hgroup
    rw [hone] at hcs hlength
    -- as many tokens as comparisons, so there is one token as well
    obtain ⟨token, htokens⟩ := List.length_eq_one_iff.mp hlength.symm
    rw [htokens] at hcs
    exact .single htokens (List.cons.inj hcs).1
  · next hnil hone =>
    cases hgroup
    refine .several hcs ?_
    rcases hcomparisons : entry.comparisons schema config with
      _ | ⟨c, _ | ⟨c', rest⟩⟩
    · exact absurd hcomparisons hnil
    · exact absurd hcomparisons (hone c)
    · simp

/-- The compiler finds what the builder found: whether a token of an
effective parameter can be compared is decided by the table. -/
theorem Effective.failure?_compile (h : entry.Effective schema config r kind)
    (token : String) :
    failure? ((Comparison.ofToken entry.key.path kind entry.key.operator
      token).compile schema)
      = if kind.admits r.nullable entry.key.operator token then none
        else some (kind.refusal r.nullable entry.key.path entry.key.operator
          token) := by
  have hpath :
      (Comparison.ofToken entry.key.path kind entry.key.operator token).path
        = entry.key.path := rfl
  unfold Comparison.compile
  rw [hpath, h.resolved]
  dsimp only
  rw [h.scalar]
  dsimp only
  rw [Formula.failure?_map]
  exact Comparison.failure?_test kind r.nullable entry.key.path
    entry.key.operator token

end Parameter

namespace Expression

/-- There is one group for each effective parameter, in order. -/
theorem forall₂_groups {entries : List Parameter}
    (hvalues : ∀ entry ∈ entries, entry.values ≠ []) :
    List.Forall₂ (Parameter.Group schema config)
      (entries.filter (Parameter.isEffective schema config))
      (entries.filterMap (group? schema config)) := by
  induction entries with
  | nil => exact .nil
  | cons entry rest ih =>
      rw [List.forall_mem_cons] at hvalues
      rcases entry.idle_or_effective schema config with
        ⟨hidle, hnil⟩ | ⟨r, kind, he⟩
      · rw [List.filter_cons_of_neg (by simp [hidle]),
          List.filterMap_cons_none (group?_eq_none_iff.mpr hnil)]
        exact ih hvalues.2
      · have hne : entry.comparisons schema config ≠ [] :=
          (Parameter.comparisons_ne_nil_iff hvalues.1).mpr ⟨r, kind, he⟩
        obtain ⟨group, hgroup⟩ := exists_group? hne
        rw [List.filter_cons_of_pos he.isEffective_eq,
          List.filterMap_cons_some hgroup]
        rw [group?_eq] at hgroup
        exact .cons (he.group hgroup) (ih hvalues.2)

/-- Token by token, the comparisons of parameters are those of the effective
ones. -/
theorem map_comparisons (schema : Schema) (config : Config)
    (entries : List Parameter) :
    (entries.flatMap (Parameter.comparisons schema config)).map some
      = (entries.filter (Parameter.isEffective schema config)).flatMap
        fun entry =>
          (tokens config entry).map (entry.comparison? schema) := by
  induction entries with
  | nil => rfl
  | cons entry rest ih =>
      rw [List.flatMap_cons, List.map_append, ih]
      rcases entry.idle_or_effective schema config with
        ⟨hidle, hnil⟩ | ⟨r, kind, he⟩
      · rw [hnil, List.filter_cons_of_neg (by simp [hidle])]
        rfl
      · rw [List.filter_cons_of_pos he.isEffective_eq, List.flatMap_cons,
          he.map_comparison?]

/-- Builder and compiler resolve alike: a field that the builder found is
never unknown to the compiler, and never a record. -/
theorem error_of_compile_build {error : CompileError}
    (h : (build schema params config).compile schema = .error error) :
    (∀ path, error ≠ .unknownField path)
      ∧ ∀ path operator, error ≠ .invalidOperator path operator "record" := by
  rw [← failure?_eq_some_iff, failure?_compile, comparisons_build] at h
  obtain ⟨c, hc, herror⟩ := List.exists_of_findSome?_eq_some h
  obtain ⟨entry, -, hmem⟩ := List.mem_flatMap.mp hc
  obtain ⟨r, kind, he, token, -, rfl⟩ := Parameter.mem_comparisons_iff.mp hmem
  rw [he.failure?_compile, Option.ite_none_left_eq_some] at herror
  obtain ⟨-, hrefusal⟩ := herror
  rw [← Option.some.inj hrefusal]
  exact LeafKind.refusal_ne kind r.nullable entry.key.path
    entry.key.operator token

/-- What parameters that were given one by one make. The expression is empty
exactly if no parameter is effective, and only then does it compile to what
restricts nothing. Otherwise it is the conjunction of one group for each
effective parameter. Its comparisons are those of the tokens, in order, each
with the scalar that its path leads to, so that compilation cannot fail for
the lack of one. -/
theorem build_ofPairs (schema : Schema) (pairs : List (String × String))
    (config : Config) :
    (build schema (.ofPairs pairs) config = empty
        ↔ ∀ entry ∈ (Parameters.ofPairs pairs).entries,
          ∀ r kind, ¬ entry.Effective schema config r kind)
      ∧ ((∃ entry ∈ (Parameters.ofPairs pairs).entries,
          ∃ r kind, entry.Effective schema config r kind)
        → ∃ groups,
          build schema (.ofPairs pairs) config = formula (.all groups)
          ∧ List.Forall₂ (Parameter.Group schema config)
            ((Parameters.ofPairs pairs).entries.filter
              (Parameter.isEffective schema config)) groups)
      ∧ (build schema (.ofPairs pairs) config).comparisons.map some
        = (((Parameters.ofPairs pairs).entries.filter
            (Parameter.isEffective schema config)).flatMap fun entry =>
          (tokens config entry).map (entry.comparison? schema))
      ∧ (∀ c ∈ (build schema (.ofPairs pairs) config).comparisons,
        ∃ r, schema.resolve? c.path.names = some r ∧ r.terminal = .leaf c.kind)
      ∧ (∀ p, (build schema (.ofPairs pairs) config).compile schema = .ok p →
        (p.isUnrestricted = true
          ↔ ∀ entry ∈ (Parameters.ofPairs pairs).entries,
            ∀ r kind, ¬ entry.Effective schema config r kind))
      ∧ ∀ error, (build schema (.ofPairs pairs) config).compile schema
        = .error error →
        (∀ path, error ≠ .unknownField path)
          ∧ ∀ path operator,
            error ≠ .invalidOperator path operator "record" := by
  have hvalues := Parameters.values_ne_nil pairs
  have hempty : build schema (.ofPairs pairs) config = empty
      ↔ ∀ entry ∈ (Parameters.ofPairs pairs).entries,
        ∀ r kind, ¬ entry.Effective schema config r kind := by
    rw [build_eq_empty_iff]
    refine forall₂_congr fun entry hentry => ?_
    rw [← not_iff_not, ← ne_eq,
      Parameter.comparisons_ne_nil_iff (hvalues entry hentry)]
    simp only [not_forall, not_not]
  refine ⟨hempty, ?_, ?_, ?_, ?_, fun error h => error_of_compile_build h⟩
  · rintro ⟨entry, hentry, r, kind, he⟩
    cases hbuild : build schema (.ofPairs pairs) config with
    | empty => exact absurd he (hempty.mp hbuild entry hentry r kind)
    | formula f =>
        rw [eq_all_of_build hbuild]
        exact ⟨_, rfl, forall₂_groups hvalues⟩
  · rw [comparisons_build]
    exact map_comparisons schema config (Parameters.ofPairs pairs).entries
  · intro c hc
    rw [comparisons_build] at hc
    obtain ⟨entry, -, hmem⟩ := List.mem_flatMap.mp hc
    obtain ⟨r, kind, he, token, -, rfl⟩ :=
      Parameter.mem_comparisons_iff.mp hmem
    exact ⟨r, he.resolved, he.scalar⟩
  · intro p h
    rw [← hempty]
    cases hbuild : build schema (.ofPairs pairs) config with
    | empty =>
        rw [hbuild] at h
        cases h
        exact iff_of_true rfl rfl
    | formula f =>
        rw [hbuild] at h
        obtain ⟨compiled, -, rfl⟩ := restricted_of_compile h
        exact iff_of_false Bool.false_ne_true (by simp)

/-- A parameter that counts makes a group. -/
theorem build_ofPairs_done :
    ∃ groups, build ⟨"Trip", [.scalar .bool "done"]⟩
      (.ofPairs [("done", "TRUE,false")]) .standard
        = formula (.all groups)
      ∧ groups ≠ [] := by
  obtain ⟨groups, hbuild, hgroups⟩ := (build_ofPairs
    ⟨"Trip", [.scalar .bool "done"]⟩ [("done", "TRUE,false")] .standard).2.1
    ⟨_, List.mem_singleton_self _, _, _, Parameter.effective_done⟩
  refine ⟨groups, hbuild, ?_⟩
  rintro rfl
  have hnone := List.forall₂_nil_right_iff.mp hgroups
  rw [List.filter_eq_nil_iff] at hnone
  exact hnone _ (List.mem_singleton_self _)
    Parameter.effective_done.isEffective_eq

end Expression

end RecordFilter
