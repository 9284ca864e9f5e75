/-
Parameters as they come to be: by giving names one value after the other,
starting from none. Whatever one insertion preserves holds of all of them
(`ofPairs_induction`); that no name is left without a value is the first
such fact, and what keeps a parameter that counts from being taken for one
that asks nothing.

# Names and their values

A table is read by name (`get?`), and one insertion changes the answer for
one name (`get?_insert`). As no name stands twice (`nodup_names`), an entry
is nothing but a name with what `get?` answers, so that the entries of a
table made from pairs are known from the pairs (`mem_ofPairs_iff`), their
order apart. That is the order in which the names first came
(`pairwise_names`), and the table holds as many values as there were pairs
(`sum_length_values`): nothing is lost, and nothing is there that was not
given, in whichever way it was (`Given`).
-/
import Mathlib.Algebra.GroupWithZero.Nat
import Mathlib.Data.List.Induction
import Mathlib.Data.List.Nodup
import RecordFilter.Parameters

namespace RecordFilter.Parameters

variable {name value : String}

-- ============================================================= insertion

/-- A property of all parameters that are made from pairs, from one
insertion. -/
theorem ofPairs_induction {motive : Parameters → Prop} (hempty : motive empty)
    (hinsert : ∀ params name value,
      motive params → motive (params.insert name value))
    (pairs : List (String × String)) : motive (ofPairs pairs) := by
  refine List.foldlRecOn pairs _ hempty ?_
  intro params h pair _
  exact hinsert params pair.1 pair.2 h

/-- One pair more is one insertion more. -/
theorem ofPairs_concat (pairs : List (String × String)) (name value : String) :
    ofPairs (pairs ++ [(name, value)])
      = (ofPairs pairs).insert name value := by
  rw [ofPairs, List.foldl_append]
  rfl

/-- All values of one name stand in one entry. -/
theorem entries_ofPairs_name (name value : String) (values : List String) :
    (ofPairs ((value :: values).map fun v => (name, v))).entries
      = [⟨name, value :: values⟩] := by
  induction values using List.reverseRecOn with
  | nil => rfl
  | append_singleton values last ih =>
      rw [← List.cons_append, List.map_append, List.map_singleton,
        ofPairs_concat, insert, ih, insertEntry, if_pos rfl]

theorem entries_ofPairs_singleton (name value : String) :
    (ofPairs [(name, value)]).entries = [⟨name, [value]⟩] :=
  entries_ofPairs_name name value []

-- ================================================================ values

theorem values_ne_nil_of_insertEntry {entries : List Parameter}
    (h : ∀ entry ∈ entries, entry.values ≠ []) :
    ∀ entry ∈ insertEntry name value entries, entry.values ≠ [] := by
  induction entries with
  | nil =>
      intro entry hentry
      rw [insertEntry, List.mem_singleton] at hentry
      rw [hentry]
      exact List.cons_ne_nil _ _
  | cons p rest ih =>
      rw [List.forall_mem_cons] at h
      rw [insertEntry]
      split
      · rw [List.forall_mem_cons]
        exact ⟨List.append_ne_nil_of_right_ne_nil _ (List.cons_ne_nil _ _),
          h.2⟩
      · rw [List.forall_mem_cons]
        exact ⟨h.1, ih h.2⟩

/-- Every name was given a value. -/
theorem values_ne_nil (pairs : List (String × String)) :
    ∀ entry ∈ (ofPairs pairs).entries, entry.values ≠ [] := by
  apply ofPairs_induction
    (motive := fun params => ∀ entry ∈ params.entries, entry.values ≠ [])
  · intro entry hentry
    cases hentry
  · intro params name value h
    exact values_ne_nil_of_insertEntry h

-- ================================================================= names

/-- An insertion adds its name at the end, unless it is there. -/
theorem map_name_insertEntry (name value : String) (entries : List Parameter) :
    (insertEntry name value entries).map Parameter.name
      = if name ∈ entries.map Parameter.name then entries.map Parameter.name
        else entries.map Parameter.name ++ [name] := by
  induction entries with
  | nil => simp [insertEntry]
  | cons p rest ih =>
      by_cases hname : p.name = name
      · simp [insertEntry, hname]
      · have hne : name ≠ p.name := fun h => hname h.symm
        rw [insertEntry, if_neg hname, List.map_cons, ih]
        by_cases hmem : name ∈ rest.map Parameter.name
        · simp only [List.map_cons, List.mem_cons, hmem, or_true, if_true]
        · simp only [List.map_cons, List.mem_cons, hmem, hne, or_false,
            if_false, List.cons_append]

/-- A new name comes to stand at the end, with its value. -/
theorem insertEntry_of_notMem {entries : List Parameter}
    (h : name ∉ entries.map Parameter.name) :
    insertEntry name value entries = entries ++ [⟨name, [value]⟩] := by
  induction entries with
  | nil => rfl
  | cons p rest ih =>
      rw [List.map_cons, List.mem_cons, not_or] at h
      rw [insertEntry, if_neg (Ne.symm h.1), ih h.2, List.cons_append]

/-- Where no name is given twice, each pair is an entry. -/
theorem entries_ofPairs_of_nodup {pairs : List (String × String)}
    (h : (pairs.map Prod.fst).Nodup) :
    (ofPairs pairs).entries = pairs.map fun pair => ⟨pair.1, [pair.2]⟩ := by
  induction pairs using List.reverseRecOn with
  | nil => rfl
  | append_singleton pairs pair ih =>
      rw [List.map_append, List.map_singleton, ← List.concat_eq_append,
        List.nodup_concat] at h
      have hnew : pair.1 ∉ (ofPairs pairs).entries.map Parameter.name := by
        rw [ih h.2, List.map_map]
        exact h.1
      rw [ofPairs_concat, insert, insertEntry_of_notMem hnew, ih h.2,
        List.map_append, List.map_singleton]

theorem nodup_names (pairs : List (String × String)) :
    ((ofPairs pairs).entries.map Parameter.name).Nodup := by
  apply ofPairs_induction
    (motive := fun params => (params.entries.map Parameter.name).Nodup)
  · exact List.nodup_nil
  · intro params name value h
    rw [insert, map_name_insertEntry]
    split
    · exact h
    · next hmem =>
      rw [← List.concat_eq_append]
      exact h.concat hmem

-- ======================================================= reading by name

/-- An insertion gives its name one more value, and no other name any. -/
theorem get?_insert (params : Parameters) (name value asked : String) :
    (params.insert name value).get? asked
      = if asked = name then some ((params.get? asked).getD [] ++ [value])
        else params.get? asked := by
  obtain ⟨entries⟩ := params
  unfold insert get?
  dsimp only
  induction entries with
  | nil =>
      by_cases hasked : asked = name
      · simp [insertEntry, hasked]
      · have hne : name ≠ asked := fun h => hasked h.symm
        simp [insertEntry, hasked, hne]
  | cons p rest ih =>
      rw [insertEntry]
      by_cases hname : p.name = name
      · by_cases hasked : asked = name
        · simp [hname, hasked]
        · have hne : name ≠ asked := fun h => hasked h.symm
          simp [hname, hasked, hne]
      · by_cases hp : p.name = asked
        · have hasked : asked ≠ name := fun h => hname (hp.trans h)
          simp [hp, hasked]
        · simpa [hname, hp] using ih

/-- The values that pairs give a name, in order. -/
def valuesOf (name : String) (pairs : List (String × String)) : List String :=
  (pairs.filter fun pair => pair.1 = name).map Prod.snd

@[simp] theorem mem_valuesOf {pairs : List (String × String)} :
    value ∈ valuesOf name pairs ↔ (name, value) ∈ pairs := by
  simp [valuesOf]

theorem valuesOf_eq_nil_iff {pairs : List (String × String)} :
    valuesOf name pairs = [] ↔ name ∉ pairs.map Prod.fst := by
  rw [List.eq_nil_iff_forall_not_mem]
  constructor
  · intro h hname
    obtain ⟨⟨_, value⟩, hpair, rfl⟩ := List.mem_map.mp hname
    exact h value (mem_valuesOf.mpr hpair)
  · intro h value hvalue
    exact h (List.mem_map_of_mem (mem_valuesOf.mp hvalue))

theorem valuesOf_concat (asked : String) (pairs : List (String × String))
    (pair : String × String) :
    valuesOf asked (pairs ++ [pair])
      = valuesOf asked pairs ++ if asked = pair.1 then [pair.2] else [] := by
  unfold valuesOf
  rw [List.filter_append, List.map_append]
  by_cases hasked : asked = pair.1
  · simp [hasked]
  · have hne : pair.1 ≠ asked := fun h => hasked h.symm
    simp [hasked, hne]

/-- The table of pairs answers for a name with the values that they give
it, if they give it any. -/
theorem get?_ofPairs (asked : String) (pairs : List (String × String)) :
    (ofPairs pairs).get? asked
      = if valuesOf asked pairs = [] then none
        else some (valuesOf asked pairs) := by
  -- from the end: the last pair is the last insertion
  induction pairs using List.reverseRecOn with
  | nil => rfl
  | append_singleton pairs pair ih =>
      rw [ofPairs_concat, get?_insert, ih, valuesOf_concat]
      by_cases hasked : asked = pair.1
      · have hvalues : (if valuesOf asked pairs = [] then none
            else some (valuesOf asked pairs)).getD []
              = valuesOf asked pairs := by
          split
          · next hnil => exact hnil.symm
          · rfl
        rw [if_pos hasked, if_pos hasked, hvalues, if_neg (by simp)]
      · rw [if_neg hasked, if_neg hasked, List.append_nil]

/-- Where no name stands twice, an entry is a name with its answer. -/
theorem mem_entries_iff {params : Parameters}
    (hnodup : (params.entries.map Parameter.name).Nodup) {entry : Parameter} :
    entry ∈ params.entries ↔ params.get? entry.name = some entry.values := by
  obtain ⟨entries⟩ := params
  unfold get?
  dsimp only at hnodup ⊢
  induction entries with
  | nil => simp
  | cons p rest ih =>
      rw [List.map_cons, List.nodup_cons] at hnodup
      by_cases hname : p.name = entry.name
      · -- a further entry of that name would be a second one
        have hrest : entry ∉ rest := fun hmem =>
          hnodup.1 (hname ▸ List.mem_map_of_mem hmem)
        have hp : entry = p ↔ p.values = entry.values := by
          rw [Parameter.mk.injEq]
          constructor
          · rintro ⟨-, h⟩
            exact h.symm
          · intro h
            exact ⟨hname.symm, h.symm⟩
        simp [hname, hrest, hp]
      · have hp : entry ≠ p := fun h => hname (h ▸ rfl)
        simpa [hname, hp] using ih hnodup.2

/-- The entries of a table made from pairs: each name that has values, with
all of them. -/
theorem mem_ofPairs_iff {pairs : List (String × String)} {entry : Parameter} :
    entry ∈ (ofPairs pairs).entries
      ↔ entry.values ≠ [] ∧ entry.values = valuesOf entry.name pairs := by
  rw [mem_entries_iff (nodup_names pairs), get?_ofPairs]
  by_cases hnil : valuesOf entry.name pairs = []
  · simp only [hnil, if_true, reduceCtorEq, false_iff, not_and]
    intro hne h
    exact hne h
  · simp only [hnil, if_false, Option.some.injEq]
    constructor
    · intro h
      exact ⟨h ▸ hnil, h.symm⟩
    · rintro ⟨-, h⟩
      exact h.symm

-- ====================================================== order and number

/-- The names of the table are those that pairs gave. -/
theorem mem_names_iff {pairs : List (String × String)} :
    name ∈ (ofPairs pairs).entries.map Parameter.name
      ↔ name ∈ pairs.map Prod.fst := by
  induction pairs using List.reverseRecOn with
  | nil => rfl
  | append_singleton pairs pair ih =>
      rw [ofPairs_concat, insert, map_name_insertEntry, List.map_append,
        List.map_singleton, List.mem_append, List.mem_singleton, ← ih]
      split
      · next hmem =>
        -- a name that is there already is no news
        constructor
        · exact Or.inl
        · rintro (h | rfl)
          · exact h
          · exact hmem
      · rw [List.mem_append, List.mem_singleton]

/-- Names stand in the order in which they first came. -/
theorem pairwise_names (pairs : List (String × String)) :
    ((ofPairs pairs).entries.map Parameter.name).Pairwise fun a b =>
      (pairs.map Prod.fst).idxOf a < (pairs.map Prod.fst).idxOf b := by
  induction pairs using List.reverseRecOn with
  | nil => exact .nil
  | append_singleton pairs pair ih =>
      -- one pair more leaves the names that came before it where they were
      have hfirst : ∀ a ∈ (ofPairs pairs).entries.map Parameter.name,
          (pairs.map Prod.fst ++ [pair.1]).idxOf a
            = (pairs.map Prod.fst).idxOf a :=
        fun a ha => List.idxOf_append_of_mem (mem_names_iff.mp ha)
      have hbefore :
          ((ofPairs pairs).entries.map Parameter.name).Pairwise fun a b =>
            (pairs.map Prod.fst ++ [pair.1]).idxOf a
              < (pairs.map Prod.fst ++ [pair.1]).idxOf b := by
        refine ih.imp_of_mem fun {a b} ha hb hab => ?_
        rwa [hfirst a ha, hfirst b hb]
      rw [ofPairs_concat, insert, map_name_insertEntry, List.map_append,
        List.map_singleton]
      split
      · exact hbefore
      · next hnew =>
        refine List.pairwise_append.mpr
          ⟨hbefore, List.pairwise_singleton _ _, ?_⟩
        intro a ha b hb
        rw [List.mem_singleton.mp hb, hfirst a ha,
          List.idxOf_append_of_notMem fun h => hnew (mem_names_iff.mpr h)]
        have hlt := List.idxOf_lt_length_iff.mpr (mem_names_iff.mp ha)
        omega

/-- An insertion adds one value. -/
theorem sum_length_insertEntry (name value : String)
    (entries : List Parameter) :
    ((insertEntry name value entries).map fun entry => entry.values.length).sum
      = (entries.map fun entry => entry.values.length).sum + 1 := by
  induction entries with
  | nil => rfl
  | cons p rest ih =>
      rw [insertEntry]
      split
      · simp only [List.map_cons, List.sum_cons, List.length_append,
          List.length_singleton]
        omega
      · simp only [List.map_cons, List.sum_cons, ih]
        omega

/-- There are as many values as pairs. -/
theorem sum_length_values (pairs : List (String × String)) :
    ((ofPairs pairs).entries.map fun entry => entry.values.length).sum
      = pairs.length := by
  induction pairs using List.reverseRecOn with
  | nil => rfl
  | append_singleton pairs pair ih =>
      rw [ofPairs_concat, insert, sum_length_insertEntry, ih,
        List.length_append, List.length_singleton]

-- ========================================================== what is kept

/-- Parameters that were given pairs: none at first, then one pair after the
other; or all that there are, collected at once. -/
inductive Given : List (String × String) → Parameters → Prop where
  | none : Given [] empty
  | insert {pairs : List (String × String)} {params : Parameters}
      (name value : String) (h : Given pairs params) :
      Given (pairs ++ [(name, value)]) (params.insert name value)
  | collect (pairs : List (String × String)) : Given pairs (ofPairs pairs)

/-- However pairs are given, the same parameters come of them. -/
theorem Given.eq_ofPairs {pairs : List (String × String)} {params : Parameters}
    (h : Given pairs params) : params = ofPairs pairs := by
  induction h with
  | none => rfl
  | insert name value _ ih => rw [ofPairs_concat, ih]
  | collect pairs => rfl

/-- A table keeps what it is given. Each name that was given stands in it
once, in the order in which the names first came; it answers for a name with
all the values of that name in their order, and with nothing if there are
none. No entry is empty, and no value is there that does not come from a
pair of its own. -/
theorem entries_given {pairs : List (String × String)} {params : Parameters}
    (h : Given pairs params) :
    (params.entries.map Parameter.name).Nodup
      ∧ ((params.entries.map Parameter.name).Pairwise fun a b =>
        (pairs.map Prod.fst).idxOf a < (pairs.map Prod.fst).idxOf b)
      ∧ (∀ name, name ∈ params.entries.map Parameter.name
        ↔ name ∈ pairs.map Prod.fst)
      ∧ (∀ name, params.get? name = none ↔ name ∉ pairs.map Prod.fst)
      ∧ (∀ name ∈ pairs.map Prod.fst,
        params.get? name = some (valuesOf name pairs))
      ∧ (∀ entry ∈ params.entries, entry.values ≠ [])
      ∧ (params.entries.map fun entry => entry.values.length).sum
        = pairs.length := by
  obtain rfl := h.eq_ofPairs
  refine ⟨nodup_names pairs, pairwise_names pairs, fun name => mem_names_iff,
    ?_, ?_, values_ne_nil pairs, sum_length_values pairs⟩
  · intro name
    rw [get?_ofPairs, ← valuesOf_eq_nil_iff]
    split
    · next hnil => exact iff_of_true rfl hnil
    · next hnil => exact iff_of_false (Option.some_ne_none _) hnil
  · intro name hname
    rw [get?_ofPairs, if_neg fun hnil => valuesOf_eq_nil_iff.mp hnil hname]

/-- A name that is given again keeps its place. -/
theorem entries_given_leg :
    ∃ params, Given [("leg", "1"), ("done", "true"), ("leg", "2")] params
      ∧ params.get? "leg" = some ["1", "2"]
      ∧ (params.entries.map fun entry => entry.values.length).sum = 3 := by
  have hgiven :=
    Given.insert "leg" "2" (.collect [("leg", "1"), ("done", "true")])
  obtain ⟨-, -, -, -, hget, -, hsum⟩ := entries_given hgiven
  exact ⟨_, hgiven, hget "leg" (List.mem_cons_self ..), hsum⟩

end RecordFilter.Parameters
