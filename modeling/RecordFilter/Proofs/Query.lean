/-
What a query means, from its parameters to the records it accepts, with
neither expression nor formula in between.

# The two questions

- When does a query compile? If every token of every effective parameter is
  `Admitted`. Otherwise the error is about the first that is not, parameter
  by parameter and token by token.
- Which records does it accept? Those that every effective parameter
  `Accepts`, which takes one of its tokens.

The answers hold of any schema, also of one with two fields of a name, and
of any configuration, also of one whose delimiter would be refused.
-/
import RecordFilter.Proofs.Construction

namespace RecordFilter

open Formula (failure? failure?_eq_some_iff failure?_eq_none_iff)

variable {schema : Schema} {config : Config} {entry : Parameter}
  {r r' : Resolution} {kind kind' : LeafKind}

-- ========================================================= one parameter

namespace Parameter

/-- A parameter is about one scalar. -/
theorem Effective.unique (h : entry.Effective schema config r kind)
    (h' : entry.Effective schema config r' kind') : r = r' ∧ kind = kind' := by
  have hr : r = r' := Option.some.inj (h.resolved.symm.trans h'.resolved)
  subst hr
  exact ⟨rfl, Terminal.leaf.inj (h.scalar.symm.trans h'.scalar)⟩

/-- A parameter that asks nothing that cannot be asked: it is not effective,
or all its tokens are admitted. -/
def Admitted (schema : Schema) (config : Config) (entry : Parameter) : Prop :=
  ∀ r kind, entry.Effective schema config r kind →
    ∀ token ∈ Expression.tokens config entry,
      kind.admits r.nullable entry.key.operator token = true

/-- A parameter of which both tokens are admitted. -/
theorem admitted_done :
    Admitted ⟨"Trip", [.scalar .bool "done"]⟩ .standard
      ⟨"done", ["TRUE,false"]⟩ := by
  intro r kind he
  obtain ⟨rfl, rfl⟩ := effective_done.unique he
  have hkey : Key.parse "done" = ⟨⟨[⟨"done", []⟩]⟩, .equal⟩ := by cbv
  have htokens : Expression.tokens .standard ⟨"done", ["TRUE,false"]⟩
      = ["TRUE", "false"] := by
    cbv
  rw [htokens, key, hkey]
  decide

/-- What is said of a parameter of which some token is not admitted. -/
def refusal? (schema : Schema) (config : Config) (entry : Parameter) :
    Option CompileError :=
  (entry.comparisons schema config).findSome? fun c =>
    failure? (c.compile schema)

theorem refusal?_of_idle (h : entry.comparisons schema config = []) :
    entry.refusal? schema config = none := by
  rw [refusal?, h]
  rfl

/-- The tokens of an effective parameter are checked one after the other. -/
theorem Effective.refusal?_eq (h : entry.Effective schema config r kind) :
    entry.refusal? schema config
      = (Expression.tokens config entry).findSome? fun token =>
          if kind.admits r.nullable entry.key.operator token then none
          else some (kind.refusal r.nullable entry.key.path entry.key.operator
            token) := by
  rw [refusal?, h.comparisons_eq, List.findSome?_map]
  exact congrFun (congrArg List.findSome? (funext h.failure?_compile)) _

theorem refusal?_eq_none_iff :
    entry.refusal? schema config = none ↔ entry.Admitted schema config := by
  rcases entry.idle_or_effective schema config with
    ⟨hidle, hnil⟩ | ⟨r, kind, he⟩
  · refine iff_of_true (refusal?_of_idle hnil) ?_
    intro r kind he
    rw [he.isEffective_eq] at hidle
    cases hidle
  · rw [he.refusal?_eq, List.findSome?_eq_none_iff]
    simp only [ite_eq_left_iff, reduceCtorEq, imp_false, not_not]
    constructor
    · intro h r' kind' he'
      obtain ⟨rfl, rfl⟩ := he.unique he'
      exact h
    · intro h
      exact h r kind he

/-- The refusal of a parameter is about its first token that is not
admitted. -/
theorem refusal?_eq_some_iff {error : CompileError} :
    entry.refusal? schema config = some error ↔
      ∃ r kind earlier token later, entry.Effective schema config r kind
        ∧ Expression.tokens config entry = earlier ++ token :: later
        ∧ (∀ t ∈ earlier, kind.admits r.nullable entry.key.operator t = true)
        ∧ kind.admits r.nullable entry.key.operator token = false
        ∧ error = kind.refusal r.nullable entry.key.path entry.key.operator
          token := by
  constructor
  · intro h
    rcases entry.idle_or_effective schema config with ⟨-, hnil⟩ | ⟨r, kind, he⟩
    · rw [refusal?_of_idle hnil] at h
      cases h
    · rw [he.refusal?_eq, List.findSome?_eq_some_iff] at h
      simp only [Option.ite_none_left_eq_some, ite_eq_left_iff, reduceCtorEq,
        imp_false, Bool.not_eq_true, Bool.not_eq_false, Option.some.injEq] at h
      obtain ⟨earlier, token, later, htokens, ⟨htoken, herror⟩, hearlier⟩ := h
      exact ⟨r, kind, earlier, token, later, he, htokens, hearlier, htoken,
        herror.symm⟩
  · rintro ⟨r, kind, earlier, token, later, he, htokens, hearlier, htoken, rfl⟩
    rw [he.refusal?_eq, List.findSome?_eq_some_iff]
    refine ⟨earlier, token, later, htokens, ?_, ?_⟩
    · rw [htoken, if_neg Bool.false_ne_true]
    · intro t ht
      rw [if_pos (hearlier t ht)]

/-- Acceptance of a record by a parameter: if it is effective, one of its
tokens makes a comparison that accepts. -/
def Accepts (schema : Schema) (config : Config) (record : Record)
    (entry : Parameter) : Prop :=
  ∀ r kind, entry.Effective schema config r kind →
    ∃ token ∈ Expression.tokens config entry, ∃ c,
      Comparison.ofToken? entry.key.path r entry.key.operator token = some c
        ∧ c.Accepts schema record

theorem Effective.exists_accepts_iff (h : entry.Effective schema config r kind)
    {record : Record} :
    (∃ c ∈ entry.comparisons schema config, c.Accepts schema record)
      ↔ ∃ token ∈ Expression.tokens config entry, ∃ c,
        Comparison.ofToken? entry.key.path r entry.key.operator token = some c
          ∧ c.Accepts schema record := by
  rw [h.comparisons_eq]
  constructor
  · rintro ⟨c, hc, haccepts⟩
    obtain ⟨token, htoken, rfl⟩ := List.mem_map.mp hc
    exact ⟨token, htoken, _, h.ofToken?_eq token, haccepts⟩
  · rintro ⟨token, htoken, c, hc, haccepts⟩
    rw [h.ofToken?_eq, Option.some.injEq] at hc
    subst hc
    exact ⟨_, List.mem_map_of_mem htoken, haccepts⟩

end Parameter

-- ============================================================== queries

namespace Expression

variable {params : Parameters}

/-- A search through parts of parts is a search for a part in which it ends. -/
private theorem findSome?_flatMap {α β γ : Type} (parts : α → List β)
    (f : β → Option γ) (l : List α) :
    (l.flatMap parts).findSome? f
      = l.findSome? fun a => (parts a).findSome? f := by
  induction l with
  | nil => rfl
  | cons a rest ih =>
      rw [List.flatMap_cons, List.findSome?_append, ih, List.findSome?_cons]
      cases (parts a).findSome? f <;> rfl

/-- The error of a query is that of its first parameter that has one. -/
theorem failure?_compile_build (schema : Schema) (params : Parameters)
    (config : Config) :
    failure? ((build schema params config).compile schema)
      = params.entries.findSome? (Parameter.refusal? schema config) := by
  rw [failure?_compile, comparisons_build, findSome?_flatMap]
  rfl

theorem exists_compile_build_iff :
    (∃ p, (build schema params config).compile schema = .ok p)
      ↔ ∀ entry ∈ params.entries, entry.Admitted schema config := by
  rw [← failure?_eq_none_iff, failure?_compile_build,
    List.findSome?_eq_none_iff]
  simp only [Parameter.refusal?_eq_none_iff]

/-- Which queries compile, and what is said of the others: a query compiles
exactly if all its parameters are admitted, and otherwise the error is that
of the first token, in the order of parameters and then of tokens, that is
not. -/
theorem compile_build (schema : Schema) (params : Parameters)
    (config : Config) :
    ((∃ p, (build schema params config).compile schema = .ok p)
        ↔ ∀ entry ∈ params.entries, entry.Admitted schema config)
      ∧ ∀ error, (build schema params config).compile schema = .error error
        ↔ ∃ before entry after r kind earlier token later,
          params.entries = before ++ entry :: after
          ∧ (∀ other ∈ before, other.Admitted schema config)
          ∧ entry.Effective schema config r kind
          ∧ tokens config entry = earlier ++ token :: later
          ∧ (∀ t ∈ earlier, kind.admits r.nullable entry.key.operator t = true)
          ∧ kind.admits r.nullable entry.key.operator token = false
          ∧ error = kind.refusal r.nullable entry.key.path entry.key.operator
            token := by
  refine ⟨exists_compile_build_iff, ?_⟩
  intro error
  rw [← failure?_eq_some_iff, failure?_compile_build,
    List.findSome?_eq_some_iff]
  constructor
  · rintro ⟨before, entry, after, hentries, hentry, hbefore⟩
    obtain ⟨r, kind, earlier, token, later, he, htokens, hearlier, htoken,
        herror⟩ :=
      Parameter.refusal?_eq_some_iff.mp hentry
    exact ⟨before, entry, after, r, kind, earlier, token, later, hentries,
      fun other hother =>
        Parameter.refusal?_eq_none_iff.mp (hbefore other hother),
      he, htokens, hearlier, htoken, herror⟩
  · rintro ⟨before, entry, after, r, kind, earlier, token, later, hentries,
      hbefore, hrest⟩
    exact ⟨before, entry, after, hentries,
      Parameter.refusal?_eq_some_iff.mpr
        ⟨r, kind, earlier, token, later, hrest⟩,
      fun other hother =>
        Parameter.refusal?_eq_none_iff.mpr (hbefore other hother)⟩

/-- All groups are those of effective parameters. -/
theorem filterMap_group?_filter (schema : Schema) (config : Config)
    (entries : List Parameter) :
    (entries.filter (Parameter.isEffective schema config)).filterMap
      (group? schema config)
      = entries.filterMap (group? schema config) := by
  rw [List.filterMap_filter]
  refine List.filterMap_congr fun entry _ => ?_
  rcases entry.idle_or_effective schema config with
    ⟨hidle, hnil⟩ | ⟨r, kind, he⟩
  · rw [hidle, group?_eq_none_iff.mpr hnil]
    rfl
  · rw [he.isEffective_eq, if_pos rfl]

/-- Parameters that are not effective have no influence: two queries with
the same effective parameters make the same expression. -/
theorem build_congr {others : Parameters}
    (h : others.entries.filter (Parameter.isEffective schema config)
      = params.entries.filter (Parameter.isEffective schema config)) :
    build schema others config = build schema params config := by
  unfold build
  rw [← filterMap_group?_filter schema config others.entries, h,
    filterMap_group?_filter schema config params.entries]

/-- What a query means that compiles: a record has to be accepted by every
effective parameter, and by that if one of its tokens, compared on its own,
accepts it. What other parameters there are does not matter. -/
theorem accepts_build {pairs : List (String × String)} {p : Predicate}
    (h : (build schema (.ofPairs pairs) config).compile schema = .ok p) :
    (∀ record, p.accepts record = true
        ↔ ∀ entry ∈ (Parameters.ofPairs pairs).entries,
          entry.Accepts schema config record)
      ∧ ∀ others : Parameters,
        others.entries.filter (Parameter.isEffective schema config)
          = (Parameters.ofPairs pairs).entries.filter
            (Parameter.isEffective schema config) →
        (build schema others config).compile schema = .ok p := by
  refine ⟨?_, ?_⟩
  · intro record
    rw [accepts_build_iff h]
    refine forall₂_congr fun entry hentry => ?_
    have hvalues := Parameters.values_ne_nil pairs entry hentry
    rw [Parameter.comparisons_ne_nil_iff hvalues]
    constructor
    · intro hall r kind he
      exact he.exists_accepts_iff.mp (hall ⟨r, kind, he⟩)
    · rintro hall ⟨r, kind, he⟩
      exact he.exists_accepts_iff.mpr (hall r kind he)
  · intro others hothers
    rw [build_congr hothers]
    exact h

/-- A query that compiles, with a choice between two tokens. -/
theorem accepts_build_done :
    ∃ p,
      (build ⟨"Trip", [.scalar .bool "done"]⟩
        (.ofPairs [("done", "TRUE,false")]) .standard).compile
          ⟨"Trip", [.scalar .bool "done"]⟩ = .ok p
      ∧ ∀ record, p.accepts record = true
        ↔ Parameter.Accepts ⟨"Trip", [.scalar .bool "done"]⟩ .standard record
          ⟨"done", ["TRUE,false"]⟩ := by
  have hentries : (Parameters.ofPairs [("done", "TRUE,false")]).entries
      = [⟨"done", ["TRUE,false"]⟩] := rfl
  obtain ⟨p, hp⟩ : ∃ p, (build ⟨"Trip", [.scalar .bool "done"]⟩
      (.ofPairs [("done", "TRUE,false")]) .standard).compile
      ⟨"Trip", [.scalar .bool "done"]⟩ = .ok p := by
    rw [exists_compile_build_iff, hentries, List.forall_mem_singleton]
    exact Parameter.admitted_done
  refine ⟨p, hp, fun record => ?_⟩
  rw [(accepts_build hp).1 record, hentries, List.forall_mem_singleton]

end Expression

end RecordFilter
