/-
Order and repetition of the pairs of a query. Collecting pairs gathers what
is given to one name, in the place where the name first stands; an
expression then keeps the order of names and of tokens, and a name with one
token makes a group of another shape than a name with two. None of that
reaches the records: of a list of pairs, only which pairs occur in it
matters.

# What pairs ask

`Asked` says of a name and a comparison that some pair of that name makes
it, which knows neither order nor number. Compilation and acceptance are
read in terms of it:

- the comparisons of the expression are those that are asked
  (`mem_comparisons_build_iff`), so that it compiles if each of them does,
  and is empty if there are none;
- a record is accepted if, for every name of which anything is asked, one
  of the comparisons asked accepts it (`accepts_ofPairs_iff`).
-/
import RecordFilter.Proofs.Query
import RecordFilter.Proofs.Tokens

namespace RecordFilter

variable {schema : Schema} {config : Config}
  {pairs others : List (String × String)} {name : String} {c : Comparison}

-- ================================================================ values

/-- What a parameter contributes, value by value. -/
theorem Parameter.comparisons_eq_flatMap (schema : Schema) (config : Config)
    (entry : Parameter) :
    entry.comparisons schema config
      = entry.values.flatMap
        fun value => comparisons schema config ⟨entry.name, [value]⟩ := by
  unfold comparisons
  dsimp only
  by_cases hignored : config.ignores entry.name = true
  · rw [if_pos hignored, eq_comm, List.flatMap_eq_nil_iff]
    intro value _
    exact if_pos hignored
  · rw [if_neg hignored, Expression.tokens_eq_flatMap, List.filterMap_flatMap]
    refine congrArg (List.flatMap · entry.values) (funext fun value => ?_)
    rw [if_neg hignored, Expression.tokens_eq_flatMap, List.flatMap_singleton]
    rfl

-- ================================================================= pairs

/-- That some pair of a name makes a comparison. -/
def Asked (schema : Schema) (config : Config) (pairs : List (String × String))
    (name : String) (c : Comparison) : Prop :=
  ∃ value, (name, value) ∈ pairs
    ∧ c ∈ Parameter.comparisons schema config ⟨name, [value]⟩

/-- Only which pairs occur matters for what is asked. -/
theorem asked_congr (h : ∀ pair, pair ∈ pairs ↔ pair ∈ others) :
    Asked schema config pairs name c ↔ Asked schema config others name c := by
  unfold Asked
  simp only [h]

/-- An entry contributes what is asked of its name. -/
theorem Parameter.mem_comparisons_ofPairs_iff {entry : Parameter}
    (hentry : entry ∈ (Parameters.ofPairs pairs).entries) :
    c ∈ entry.comparisons schema config
      ↔ Asked schema config pairs entry.name c := by
  have hvalues := (Parameters.mem_ofPairs_iff.mp hentry).2
  rw [comparisons_eq_flatMap, List.mem_flatMap, hvalues]
  simp only [Parameters.mem_valuesOf]
  rfl

theorem Asked.exists_entry (h : Asked schema config pairs name c) :
    ∃ entry ∈ (Parameters.ofPairs pairs).entries, entry.name = name := by
  obtain ⟨value, hpair, -⟩ := h
  have hmem : value ∈ Parameters.valuesOf name pairs :=
    Parameters.mem_valuesOf.mpr hpair
  exact ⟨⟨name, Parameters.valuesOf name pairs⟩,
    Parameters.mem_ofPairs_iff.mpr ⟨List.ne_nil_of_mem hmem, rfl⟩, rfl⟩

namespace Expression

/-- The comparisons of an expression are those that its pairs ask. -/
theorem mem_comparisons_build_iff :
    c ∈ (build schema (.ofPairs pairs) config).comparisons
      ↔ ∃ name, Asked schema config pairs name c := by
  rw [comparisons_build, List.mem_flatMap]
  constructor
  · rintro ⟨entry, hentry, hc⟩
    exact ⟨entry.name, (Parameter.mem_comparisons_ofPairs_iff hentry).mp hc⟩
  · rintro ⟨name, hasked⟩
    obtain ⟨entry, hentry, rfl⟩ := hasked.exists_entry
    exact ⟨entry, hentry,
      (Parameter.mem_comparisons_ofPairs_iff hentry).mpr hasked⟩

theorem exists_compile_ofPairs_iff :
    (∃ p, (build schema (.ofPairs pairs) config).compile schema = .ok p)
      ↔ ∀ name c, Asked schema config pairs name c →
        ∃ q, c.alone.compile schema = .ok q := by
  rw [exists_compile_iff]
  simp only [mem_comparisons_build_iff, forall_exists_index]
  exact forall_comm

/-- An expression restricts nothing exactly if nothing is asked. -/
theorem compile_ofPairs_eq_unrestricted_iff :
    (build schema (.ofPairs pairs) config).compile schema = .ok .unrestricted
      ↔ ∀ name c, ¬ Asked schema config pairs name c := by
  have hnone : (∀ name c, ¬ Asked schema config pairs name c)
      ↔ (build schema (.ofPairs pairs) config).comparisons = [] := by
    rw [List.eq_nil_iff_forall_not_mem]
    simp only [mem_comparisons_build_iff, not_exists]
    exact forall_comm
  have hempty : build schema (.ofPairs pairs) config = empty
      ↔ (build schema (.ofPairs pairs) config).comparisons = [] := by
    rw [build_eq_empty_iff, comparisons_build, List.flatMap_eq_nil_iff]
  rw [hnone, ← hempty]
  constructor
  · intro h
    cases hbuild : build schema (.ofPairs pairs) config with
    | empty => rfl
    | formula f =>
        -- a formula compiles to a restriction, even one that restricts nothing
        rw [hbuild] at h
        obtain ⟨compiled, -, hp⟩ := restricted_of_compile h
        cases hp
  · intro h
    rw [h]
    rfl

/-- What an expression accepts, in terms of what its pairs ask. -/
theorem accepts_ofPairs_iff {p : Predicate}
    (h : (build schema (.ofPairs pairs) config).compile schema = .ok p)
    (record : Record) :
    p.accepts record = true ↔ ∀ name, (∃ c, Asked schema config pairs name c) →
      ∃ c, Asked schema config pairs name c ∧ c.Accepts schema record := by
  rw [accepts_build_iff h]
  constructor
  · rintro hall name ⟨c, hasked⟩
    obtain ⟨entry, hentry, rfl⟩ := hasked.exists_entry
    have hc := (Parameter.mem_comparisons_ofPairs_iff hentry).mpr hasked
    obtain ⟨c', hc', haccepts⟩ := hall entry hentry (List.ne_nil_of_mem hc)
    exact ⟨c', (Parameter.mem_comparisons_ofPairs_iff hentry).mp hc', haccepts⟩
  · intro hall entry hentry hne
    obtain ⟨c, hc⟩ := List.exists_mem_of_ne_nil _ hne
    have hasked := (Parameter.mem_comparisons_ofPairs_iff hentry).mp hc
    obtain ⟨c', hasked', haccepts⟩ := hall entry.name ⟨c, hasked⟩
    exact ⟨c', (Parameter.mem_comparisons_ofPairs_iff hentry).mpr hasked',
      haccepts⟩

/-- Order and repetition do not count. Two lists in which the same pairs
occur, in whatever order and however often, compile together, restrict
nothing together, and where they compile accept the same records. This is
so of lists that are permutations of each other, and of a list and itself
with further copies of its pairs. -/
theorem compile_ofPairs_congr (h : ∀ pair, pair ∈ pairs ↔ pair ∈ others)
    (schema : Schema) (config : Config) :
    ((∃ p, (build schema (.ofPairs pairs) config).compile schema = .ok p)
        ↔ ∃ q, (build schema (.ofPairs others) config).compile schema = .ok q)
      ∧ ((build schema (.ofPairs pairs) config).compile schema
          = .ok .unrestricted
        ↔ (build schema (.ofPairs others) config).compile schema
          = .ok .unrestricted)
      ∧ ∀ p q, (build schema (.ofPairs pairs) config).compile schema = .ok p →
        (build schema (.ofPairs others) config).compile schema = .ok q →
        ∀ record, p.accepts record = q.accepts record := by
  refine ⟨?_, ?_, ?_⟩
  · simp only [exists_compile_ofPairs_iff, asked_congr h]
  · simp only [compile_ofPairs_eq_unrestricted_iff, asked_congr h]
  · intro p q hp hq record
    rw [Bool.eq_iff_iff, accepts_ofPairs_iff hp, accepts_ofPairs_iff hq]
    simp only [asked_congr h]

/-- Two pairs in the other order, one of them twice. -/
theorem compile_ofPairs_congr_done :
    ∃ p q,
      (build ⟨"Trip", [.scalar .bool "done"]⟩
        (.ofPairs [("done", "TRUE,false"), ("page", "2")]) .standard).compile
          ⟨"Trip", [.scalar .bool "done"]⟩ = .ok p
      ∧ (build ⟨"Trip", [.scalar .bool "done"]⟩
        (.ofPairs [("page", "2"), ("done", "TRUE,false"),
          ("done", "TRUE,false")]) .standard).compile
          ⟨"Trip", [.scalar .bool "done"]⟩ = .ok q
      ∧ ∀ record, p.accepts record = q.accepts record := by
  have hpairs : ∀ pair, pair ∈ [("done", "TRUE,false"), ("page", "2")]
      ↔ pair ∈ [("page", "2"), ("done", "TRUE,false"),
        ("done", "TRUE,false")] := by
    intro pair
    simp only [List.mem_cons, List.not_mem_nil, or_false, or_self]
    exact or_comm
  obtain ⟨hcompiles, -, haccepts⟩ :=
    compile_ofPairs_congr hpairs ⟨"Trip", [.scalar .bool "done"]⟩ .standard
  have hpage : Parameter.Admitted ⟨"Trip", [.scalar .bool "done"]⟩ .standard
      ⟨"page", ["2"]⟩ := by
    intro r kind he
    have hkey : Key.parse "page" = ⟨⟨[⟨"page", []⟩]⟩, .equal⟩ := by cbv
    have hresolved := he.resolved
    rw [Parameter.key, hkey] at hresolved
    cases hresolved
  have hentries :
      (Parameters.ofPairs [("done", "TRUE,false"), ("page", "2")]).entries
        = [⟨"done", ["TRUE,false"]⟩, ⟨"page", ["2"]⟩] := rfl
  obtain ⟨p, hp⟩ : ∃ p,
      (build ⟨"Trip", [.scalar .bool "done"]⟩
        (.ofPairs [("done", "TRUE,false"), ("page", "2")]) .standard).compile
          ⟨"Trip", [.scalar .bool "done"]⟩ = .ok p := by
    rw [exists_compile_build_iff, hentries, List.forall_mem_cons,
      List.forall_mem_singleton]
    exact ⟨Parameter.admitted_done, hpage⟩
  obtain ⟨q, hq⟩ := hcompiles.mp ⟨p, hp⟩
  exact ⟨p, q, hp, hq, haccepts p q hp hq⟩

end Expression

end RecordFilter
