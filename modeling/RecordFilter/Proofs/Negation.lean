/-
Inequality as the negation of equality, from single comparisons up to
queries. A query is asked twice here, with one name and one value and with
the two operators: `k!=v` and `k==v`, as keys `k!` and `k=`.

# From comparison to query

- An inequality accepts what its equality refuses, provided that this
  compiles (`accepts_iff_affirmed_rejects`); what cannot be compiled has no
  negation.
- The tokens of a value are alternatives under either operator. So the
  negation of a choice is not what an inequality asks: it is a choice of
  negations, and accepts where some token on its own is refused by the
  equality. Only for a single token the two are complements.

Nothing is assumed of the schema, the record or the scalar that the path
leads to: collections, subscripts, missing fields and values of another
kind are all behind the check, which is negated as a whole.
-/
import RecordFilter.Proofs.Query
import RecordFilter.Proofs.Tokens
import RecordFilter.Proofs.Typing

namespace RecordFilter

open Formula (failure? failure?_eq_some_iff failure?_eq_none_iff)

variable {schema : Schema} {config : Config} {record : Record} {r : Resolution}
  {kind : LeafKind}

-- =========================================================== comparisons

namespace Comparison

variable {c : Comparison}

theorem failure?_compile_affirmed (h : c.operator = .notEqual)
    (schema : Schema) :
    failure? (c.affirmed.compile schema)
      = (failure? (c.compile schema)).map
        (CompileError.withOperator .equal) := by
  rw [compile_affirmed h, Formula.failure?_map, Formula.failure?_mapError]

/-- An inequality accepts what its equality is compiled to refuse. -/
theorem accepts_iff_affirmed_rejects (h : c.operator = .notEqual) :
    c.Accepts schema record
      ↔ ∃ check, c.affirmed.compile schema = .ok check
        ∧ check.accepts record = false := by
  rw [accepts_iff, compile_affirmed h]
  cases hcompile : c.compile schema with
  | error e =>
      constructor
      · rintro ⟨check, hcheck, -⟩
        cases hcheck
      · rintro ⟨check, hcheck, -⟩
        cases hcheck
  | ok check =>
      have hnegated : check.negated = true := by
        obtain ⟨r, kind, test, -, rfl⟩ := compile_eq_ok_iff.mp hcompile
        exact beq_iff_eq.mpr h
      have hopposite : ({ check with negated := false } : Check).accepts record
          = !check.accepts record := by
        rw [Check.accepts, Check.accepts, hnegated, Bool.bne_false,
          Bool.bne_true, Bool.not_not]
      constructor
      · rintro ⟨check', hcheck, haccepts⟩
        cases hcheck
        refine ⟨_, rfl, ?_⟩
        rw [hopposite, haccepts, Bool.not_true]
      · rintro ⟨check', hcheck, hrejects⟩
        cases hcheck
        rw [hopposite, Bool.not_eq_false'] at hrejects
        exact ⟨check, rfl, hrejects⟩

/-- Both operators stay as they are for every kind of field. -/
theorem affirmed_ofToken (path : Path) (kind : LeafKind) (token : String) :
    (ofToken path kind .notEqual token).operator = .notEqual
      ∧ (ofToken path kind .notEqual token).affirmed
        = ofToken path kind .equal token := by
  have hoperator : ∀ operator, operator = .notEqual ∨ operator = .equal →
      operatorOf kind token operator = operator := by
    intro operator h
    unfold operatorOf
    split
    · rfl
    · rcases h with rfl | rfl <;> cases kind <;> rfl
  refine ⟨hoperator .notEqual (.inl rfl), ?_⟩
  rw [ofToken, ofToken, affirmed, hoperator .equal (.inr rfl)]

end Comparison

-- ================================================= queries of one value

/-- What a query of one name and one value compiles to. -/
def Expression.ask (schema : Schema) (config : Config) (name value : String) :
    Except CompileError Predicate :=
  (build schema (.ofPairs [(name, value)]) config).compile schema

namespace Expression

/-- The error of a query of one value is that of the first comparison that
its name contributes and that has one. -/
theorem failure?_ask_eq (schema : Schema) (config : Config)
    (name value : String) :
    failure? (ask schema config name value)
      = (Parameter.comparisons schema config ⟨name, [value]⟩).findSome?
        fun c => failure? (c.compile schema) := by
  rw [ask, failure?_compile, comparisons_build,
    Parameters.entries_ofPairs_singleton, List.flatMap_singleton]

/-- A query of one value accepts what one of the comparisons does that its
name contributes, if it contributes any. -/
theorem accepts_ask_iff {name value : String} {p : Predicate}
    (hp : ask schema config name value = .ok p) (record : Record) :
    p.accepts record = true
      ↔ Parameter.comparisons schema config ⟨name, [value]⟩ ≠ [] →
        ∃ c ∈ Parameter.comparisons schema config ⟨name, [value]⟩,
        c.Accepts schema record := by
  rw [accepts_build_iff hp, Parameters.entries_ofPairs_singleton,
    List.forall_mem_singleton]

end Expression

namespace Parameter

open Expression (ask)

variable {name value : String}

/-- One value makes one comparison for each of its tokens. -/
theorem Effective.comparisons_value
    (h : Effective schema config ⟨name, [value]⟩ r kind) :
    comparisons schema config ⟨name, [value]⟩
      = (config.tokens value).map
          (Comparison.ofToken (Key.parse name).path kind
            (Key.parse name).operator) := by
  rw [h.comparisons_eq, Expression.tokens_eq_flatMap]
  exact congrArg (List.map _) (List.flatMap_singleton config.tokens value)

/-- The error of a query of one value is that of its first token that has
one. -/
theorem Effective.failure?_ask
    (h : Effective schema config ⟨name, [value]⟩ r kind) :
    failure? (ask schema config name value)
      = (config.tokens value).findSome? fun token =>
        failure? ((Comparison.ofToken (Key.parse name).path kind
          (Key.parse name).operator token).compile schema) := by
  rw [Expression.failure?_ask_eq, h.comparisons_value, List.findSome?_map]
  rfl

/-- A query of one value accepts what the comparison of one of its tokens
does. -/
theorem Effective.accepts_ask_iff
    (h : Effective schema config ⟨name, [value]⟩ r kind) {p : Predicate}
    (hp : ask schema config name value = .ok p) :
    p.accepts record = true ↔ ∃ token ∈ config.tokens value,
      (Comparison.ofToken (Key.parse name).path kind
        (Key.parse name).operator token).Accepts schema record := by
  have hne : comparisons schema config ⟨name, [value]⟩ ≠ [] :=
    (comparisons_ne_nil_iff (List.cons_ne_nil _ _)).mpr ⟨r, kind, h⟩
  rw [Expression.accepts_ask_iff hp]
  rw [h.comparisons_value] at hne ⊢
  simp only [hne, ne_eq, not_false_eq_true, true_implies, List.mem_map,
    exists_exists_and_eq_and]

theorem Effective.exists_ask_iff
    (h : Effective schema config ⟨name, [value]⟩ r kind) {token : String}
    (htokens : config.tokens value = [token]) :
    (∃ q, ask schema config name value = .ok q)
      ↔ ∃ check,
        (Comparison.ofToken (Key.parse name).path kind
          (Key.parse name).operator token).compile schema = .ok check := by
  rw [← failure?_eq_none_iff, ← failure?_eq_none_iff, h.failure?_ask, htokens,
    List.findSome?_singleton]

/-- A query of one token answers as the check of its comparison. -/
theorem Effective.ask_eq_check
    (h : Effective schema config ⟨name, [value]⟩ r kind)
    {token : String} (htokens : config.tokens value = [token]) {q : Predicate}
    (hq : ask schema config name value = .ok q) {check : Check}
    (hcheck : (Comparison.ofToken (Key.parse name).path kind
      (Key.parse name).operator token).compile schema = .ok check)
    (record : Record) :
    q.accepts record = check.accepts record := by
  rw [Bool.eq_iff_iff, h.accepts_ask_iff hq, htokens]
  simp only [List.mem_singleton, exists_eq_left, Comparison.accepts_iff,
    hcheck, Except.ok.injEq, exists_eq_left']

/-- A query of one token refuses what the check of its comparison does. -/
theorem Effective.ask_rejects_iff
    (h : Effective schema config ⟨name, [value]⟩ r kind) {token : String}
    (htokens : config.tokens value = [token]) :
    (∃ q, ask schema config name value = .ok q ∧ q.accepts record = false)
      ↔ ∃ check,
        (Comparison.ofToken (Key.parse name).path kind
          (Key.parse name).operator token).compile schema = .ok check
        ∧ check.accepts record = false := by
  constructor
  · rintro ⟨q, hq, hrejects⟩
    obtain ⟨check, hcheck⟩ := (h.exists_ask_iff htokens).mp ⟨q, hq⟩
    rw [h.ask_eq_check htokens hq hcheck] at hrejects
    exact ⟨check, hcheck, hrejects⟩
  · rintro ⟨check, hcheck, hrejects⟩
    obtain ⟨q, hq⟩ := (h.exists_ask_iff htokens).mpr ⟨check, hcheck⟩
    rw [← h.ask_eq_check htokens hq hcheck] at hrejects
    exact ⟨q, hq, hrejects⟩

end Parameter

-- ============================================================ the law

namespace Expression

open Parameter (Effective)

variable {k value : String}

/-- A name that is not ignored is effective if its path leads to a scalar. -/
theorem effective_of_parse {name : String} {path : Path} {operator : Operator}
    (hkey : Key.parse name = ⟨path, operator⟩) (hname : name ∉ config.ignored)
    (hresolved : schema.resolve? path.names = some r)
    (hscalar : r.terminal = .leaf kind) (value : String) :
    Effective schema config ⟨name, [value]⟩ r kind := by
  refine ⟨hname, ?_, hscalar⟩
  rw [Parameter.key, hkey]
  exact hresolved

/-- A query with `=` fails as the one with `!`, but for the operator. -/
theorem failure?_ask_equal
    (hnot : Effective schema config ⟨k ++ "!", [value]⟩ r kind)
    (heq : Effective schema config ⟨k ++ "=", [value]⟩ r kind) :
    failure? (ask schema config (k ++ "=") value)
      = (failure? (ask schema config (k ++ "!") value)).map
        (CompileError.withOperator .equal) := by
  rw [hnot.failure?_ask, heq.failure?_ask, List.map_findSome?,
    Key.parse_notEqual, Key.parse_equal]
  refine congrArg (List.findSome? · _) (funext fun token => ?_)
  obtain ⟨hoperator, haffirmed⟩ :=
    Comparison.affirmed_ofToken (Key.pathOf k) kind token
  rw [Function.comp_apply, ← Comparison.failure?_compile_affirmed hoperator,
    haffirmed]

/-- A query with `!` accepts where the equality of some token is compiled to
refuse. -/
theorem accepts_ask_notEqual_iff
    (hnot : Effective schema config ⟨k ++ "!", [value]⟩ r kind) {p : Predicate}
    (hp : ask schema config (k ++ "!") value = .ok p) :
    p.accepts record = true ↔ ∃ token ∈ config.tokens value, ∃ check,
      (Comparison.ofToken (Key.pathOf k) kind .equal token).compile schema
        = .ok check
        ∧ check.accepts record = false := by
  rw [hnot.accepts_ask_iff hp, Key.parse_notEqual]
  refine exists_congr fun token => and_congr_right fun _ => ?_
  obtain ⟨hoperator, haffirmed⟩ :=
    Comparison.affirmed_ofToken (Key.pathOf k) kind token
  rw [Comparison.accepts_iff_affirmed_rejects hoperator, haffirmed]

/-- `!` is the negation of `=`, for any key of which the path leads to a
scalar. The two queries compile together or fail together, for the same
cause and about the same path. Where they compile, the inequality accepts
the records that the equality refuses for some token of the value on its
own; for a value of a single token, those that the equality refuses. -/
theorem ask_notEqual (value : String) (hnot : k ++ "!" ∉ config.ignored)
    (heq : k ++ "=" ∉ config.ignored)
    (hresolved : schema.resolve? (Key.pathOf k).names = some r)
    (hscalar : r.terminal = .leaf kind) :
    ((∃ p, ask schema config (k ++ "!") value = .ok p)
        ↔ ∃ q, ask schema config (k ++ "=") value = .ok q)
      ∧ (∀ e, ask schema config (k ++ "!") value = .error e →
        ∃ e', ask schema config (k ++ "=") value = .error e'
          ∧ e'.cause = e.cause ∧ e'.path = e.path)
      ∧ (∀ p, ask schema config (k ++ "!") value = .ok p → ∀ record,
        (p.accepts record = true ↔ ∃ token ∈ config.tokens value,
          ∃ q, ask schema config (k ++ "=") token = .ok q
            ∧ q.accepts record = false))
      ∧ ∀ p q token, config.tokens value = [token] →
        ask schema config (k ++ "!") value = .ok p →
        ask schema config (k ++ "=") value = .ok q →
        ∀ record, p.accepts record = !q.accepts record := by
  have hnotEffective :
      ∀ value, Effective schema config ⟨k ++ "!", [value]⟩ r kind :=
    effective_of_parse (Key.parse_notEqual k) hnot hresolved hscalar
  have heqEffective :
      ∀ value, Effective schema config ⟨k ++ "=", [value]⟩ r kind :=
    effective_of_parse (Key.parse_equal k) heq hresolved hscalar
  have hfailure :=
    failure?_ask_equal (hnotEffective value) (heqEffective value)
  refine ⟨?_, ?_, ?_, ?_⟩
  · rw [← failure?_eq_none_iff, ← failure?_eq_none_iff, hfailure,
      Option.map_eq_none_iff]
  · intro e he
    rw [failure?_eq_some_iff.mpr he, Option.map_some,
      failure?_eq_some_iff] at hfailure
    exact ⟨_, hfailure, CompileError.cause_withOperator _ _,
      CompileError.path_withOperator _ _⟩
  · intro p hp record
    rw [accepts_ask_notEqual_iff (hnotEffective value) hp]
    -- a token, given as a value, is its own only token
    refine exists_congr fun token => and_congr_right fun htoken => ?_
    rw [(heqEffective token).ask_rejects_iff (Config.tokens_of_mem htoken),
      Key.parse_equal]
  · intro p q token htokens hp hq record
    -- one token, so that a refusal for some token is a refusal of the query
    have hrejects : (∃ q', ask schema config (k ++ "=") value = .ok q'
        ∧ q'.accepts record = false)
        ↔ q.accepts record = false := by
      simp only [hq, Except.ok.injEq, exists_eq_left']
    rw [Bool.eq_iff_iff, accepts_ask_notEqual_iff (hnotEffective value) hp,
      htokens, Bool.not_eq_true', ← hrejects,
      (heqEffective value).ask_rejects_iff htokens, Key.parse_equal]
    simp only [List.mem_singleton, exists_eq_left]

/-- A choice of a truth value and null, of one item of a collection. -/
theorem ask_notEqual_done :
    ∃ p,
      ask ⟨"Trip", [.list "done" .bool]⟩ .standard ("Done[1]" ++ "!")
        "true,NULL" = .ok p
      ∧ ∀ record, p.accepts record = true ↔ ∃ token ∈ ["true", "NULL"], ∃ q,
        ask ⟨"Trip", [.list "done" .bool]⟩ .standard ("Done[1]" ++ "=")
          token = .ok q
        ∧ q.accepts record = false := by
  have hpath : Key.pathOf "Done[1]" = ⟨[⟨"Done", [1]⟩]⟩ := by decide +kernel
  have htokens : Config.tokens .standard "true,NULL" = ["true", "NULL"] := by
    cbv
  have hheeded : ∀ name, name ∉ Config.standard.ignored :=
    fun _ => List.not_mem_nil
  have hresolved : (⟨"Trip", [.list "done" .bool]⟩ : Schema).resolve?
      (Key.pathOf "Done[1]").names
      = some (.ofField (.list "done" .bool)) := by
    rw [hpath]
    rfl
  have hcompiles : failure? (ask ⟨"Trip", [.list "done" .bool]⟩ .standard
      ("Done[1]" ++ "!") "true,NULL") = none := by
    have heffective :=
      effective_of_parse (Key.parse_notEqual "Done[1]") (hheeded _) hresolved
        rfl
    rw [(heffective "true,NULL").failure?_ask, htokens, Key.parse_notEqual,
      hpath]
    rfl
  obtain ⟨p, hp⟩ := failure?_eq_none_iff.mp hcompiles
  refine ⟨p, hp, fun record => ?_⟩
  rw [← htokens]
  exact (ask_notEqual "true,NULL" (hheeded _) (hheeded _) hresolved
    rfl).2.2.1 p hp record

end Expression

end RecordFilter
