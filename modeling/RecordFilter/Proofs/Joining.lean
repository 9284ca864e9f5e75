/-
Joining what a name was given to a single value, with the delimiter in
between. It does not matter how the tokens of a name were given: in values
of their own, several to a value, or all in one; nor whether blanks were
there to be trimmed. The expression is the same, with its groups and their
order, and not only what it accepts.

# Why no token is lost

A value that is joined from others has the tokens of all of them
(`Config.tokens_join`), and a token, as a value, is its own only token: no
delimiter is left in it to cut it, and trimming has no more to do with it
(`Config.tokens_withTrimming_of_mem`). The pieces of a value are as many as
its delimiters and one more, whether or not anything stands in them, so that
empty tokens count like any other. What must be there is something to join:
of nothing at all, joining would make an empty token.
-/
import RecordFilter.Proofs.Construction
import RecordFilter.Proofs.Tokens

namespace RecordFilter

variable {schema : Schema} {config config' : Config} {entry entry' : Parameter}

-- =============================================================== joining

namespace Config

variable {values : List String} {value token : String}

/-- The value that is made of others, with the delimiter between them. -/
def join (config : Config) (values : List String) : String :=
  (String.singleton config.delimiter).intercalate values

/-- A value that is joined from others has the tokens of all of them. -/
theorem tokens_join (config : Config) (h : values ≠ []) :
    config.tokens (config.join values) = values.flatMap config.tokens := by
  have hparts : values.map String.toList ≠ [] := List.map_eq_nil_iff.not.mpr h
  have hsplit :
      ([config.delimiter].intercalate (values.map String.toList)).splitOn
        config.delimiter
      = (values.map String.toList).flatMap fun part =>
        part.splitOn config.delimiter := by
    refine Text.splitOnP_intercalate_eq_flatMap ?_ hparts
    exact beq_self_eq_true config.delimiter
  rw [tokens, join, String.toList_intercalate, String.toList_singleton, hsplit,
    List.flatMap_map, List.map_flatMap]
  rfl

/-- A token is its own only token where nothing is trimmed. -/
theorem tokens_withTrimming_of_mem (h : token ∈ config.tokens value) :
    (config.withTrimming false).tokens token = [token] := by
  have hdelimiter : (config.withTrimming false).delimiter = config.delimiter :=
    rfl
  rw [tokens, hdelimiter,
    List.splitOn_eq_singleton (delimiter_not_mem_token h), List.map_singleton]
  exact congrArg List.singleton String.ofList_toList

end Config

/-- The parameter with some parts, in place of its values, joined to its
only value. -/
def Parameter.joined (config : Config) (parts : Parameter → List String)
    (entry : Parameter) : Parameter :=
  ⟨entry.name, [config.join (parts entry)]⟩

/-- The parameters with the parts of each name joined to one value. -/
def Parameters.joined (config : Config) (parts : Parameter → List String)
    (params : Parameters) : Parameters :=
  ⟨params.entries.map (Parameter.joined config parts)⟩

/-- They can be given as well, one value to a name. -/
theorem Parameters.joined_ofPairs (config : Config)
    (parts : Parameter → List String) (pairs : List (String × String)) :
    (ofPairs pairs).joined config parts
      = ofPairs ((ofPairs pairs).entries.map fun entry =>
          (entry.name, config.join (parts entry))) := by
  have hentries : (ofPairs ((ofPairs pairs).entries.map fun entry =>
        (entry.name, config.join (parts entry)))).entries
      = ((ofPairs pairs).joined config parts).entries := by
    rw [entries_ofPairs_of_nodup
      (by rw [List.map_map]; exact nodup_names pairs), List.map_map]
    rfl
  rw [mk.injEq]
  exact hentries.symm

namespace Expression

theorem exists_value_of_mem_tokens {token : String}
    (h : token ∈ tokens config entry) :
    ∃ value, token ∈ config.tokens value := by
  rw [tokens_eq_flatMap, List.mem_flatMap] at h
  obtain ⟨value, -, htoken⟩ := h
  exact ⟨value, htoken⟩

/-- A parameter that is joined from its tokens has just these, if there are
any. -/
theorem tokens_joined_tokens (h : entry.values ≠ []) :
    tokens (config.withTrimming false) (entry.joined config (tokens config))
      = tokens config entry := by
  have hjoin : config.join (tokens config entry)
      = (config.withTrimming false).join (tokens config entry) := rfl
  rw [tokens_eq_flatMap, Parameter.joined, hjoin, List.flatMap_singleton,
    Config.tokens_join _ (Parameter.tokens_ne_nil h)]
  have hself : ∀ token ∈ tokens config entry,
      (config.withTrimming false).tokens token = [token] := by
    intro token htoken
    obtain ⟨value, hvalue⟩ := exists_value_of_mem_tokens htoken
    exact Config.tokens_withTrimming_of_mem hvalue
  rw [List.flatMap_congr hself, List.flatMap_singleton']

/-- So has one that is joined from its values. -/
theorem tokens_joined_values (h : entry.values ≠ []) :
    tokens config (entry.joined config Parameter.values)
      = tokens config entry := by
  rw [tokens_eq_flatMap, tokens_eq_flatMap, Parameter.joined,
    List.flatMap_singleton, Config.tokens_join _ h]

-- =========================================================== expressions

/-- A group is made of a name and of tokens, and it must be known whether
the name is ignored. -/
theorem group?_congr (hname : entry'.name = entry.name)
    (hignored : config'.ignored = config.ignored)
    (htokens : tokens config' entry' = tokens config entry) :
    group? schema config' entry' = group? schema config entry := by
  unfold group? Config.ignores
  rw [hname, hignored, htokens]

/-- An expression is made of the groups of all parameters. -/
theorem build_joined_eq {parts : Parameter → List String} {params : Parameters}
    (hignored : config'.ignored = config.ignored)
    (htokens : ∀ entry ∈ params.entries,
      tokens config' (entry.joined config parts) = tokens config entry) :
    build schema (params.joined config parts) config'
      = build schema params config := by
  have hgroups : (params.joined config parts).entries.filterMap
      (group? schema config')
      = params.entries.filterMap (group? schema config) := by
    rw [Parameters.joined, List.filterMap_map]
    refine List.filterMap_congr fun entry hentry => ?_
    exact group?_congr rfl hignored (htokens entry hentry)
  unfold build
  rw [hgroups]

/-- Joining the values of each name to one leaves the expression as it
is. -/
theorem build_joined_values (schema : Schema) (pairs : List (String × String))
    (config : Config) :
    build schema
      ((Parameters.ofPairs pairs).joined config Parameter.values) config
      = build schema (.ofPairs pairs) config := by
  refine build_joined_eq rfl fun entry hentry => ?_
  exact tokens_joined_values (Parameters.values_ne_nil pairs entry hentry)

/-- Joining the tokens of each name to one value, which is not trimmed any
more, leaves both the tokens and the expression as they are. So does joining
the values of each name as they were given, under the configuration itself;
in particular a name that is given several values might have been given
one. -/
theorem build_joined (schema : Schema) (pairs : List (String × String))
    (config : Config) :
    (∀ entry ∈ (Parameters.ofPairs pairs).entries,
        tokens (config.withTrimming false)
            (entry.joined config (tokens config))
          = tokens config entry)
      ∧ build schema ((Parameters.ofPairs pairs).joined config (tokens config))
          (config.withTrimming false)
        = build schema (.ofPairs pairs) config
      ∧ build schema
        ((Parameters.ofPairs pairs).joined config Parameter.values) config
        = build schema (.ofPairs pairs) config
      ∧ ∀ name value values,
        build schema
          (.ofPairs ((value :: values).map fun v => (name, v))) config
          = build schema
            (.ofPairs [(name, config.join (value :: values))]) config := by
  have htokens : ∀ entry ∈ (Parameters.ofPairs pairs).entries,
      tokens (config.withTrimming false) (entry.joined config (tokens config))
        = tokens config entry := by
    intro entry hentry
    exact tokens_joined_tokens (Parameters.values_ne_nil pairs entry hentry)
  refine ⟨htokens, build_joined_eq rfl htokens,
    build_joined_values schema pairs config, ?_⟩
  intro name value values
  rw [← build_joined_values, Parameters.joined_ofPairs,
    Parameters.entries_ofPairs_name, List.map_singleton]

end Expression

end RecordFilter
