/-
Tokens of a value: what stands between delimiters, without the blanks at
either end if a configuration trims.

# What is shown

- `tokens_eq_flatMap`: the tokens of a parameter are those of its values,
  one value after the other. Its name has no part in them.
- `delimiter_not_mem_token`: no token holds a delimiter.
- `tokens_of_mem`: a token, taken as a value, is its own only token. There
  is no delimiter left in it to cut it again, and nothing to trim.

So a query can be taken apart into queries of one token each. Nothing here
asks that the delimiter be one that a configuration accepts.
-/
import Mathlib.Data.List.DropRight
import RecordFilter.Expression
import RecordFilter.Text.Pieces

namespace RecordFilter

-- ============================================================== trimming

namespace Text

/-- Trimming drops the blanks in front and then those behind. -/
theorem trim_eq (text : List Char) :
    trim text = (text.dropWhile isBlank).rdropWhile isBlank :=
  rfl

theorem mem_of_mem_trim {text : List Char} {c : Char} (h : c ∈ trim text) :
    c ∈ text := by
  rw [trim_eq] at h
  have hfront := (List.rdropWhile_prefix isBlank _).subset h
  exact (List.dropWhile_suffix isBlank).subset hfront

/-- What is trimmed has no blanks in front. -/
theorem dropWhile_trim (text : List Char) :
    (trim text).dropWhile isBlank = trim text := by
  rw [trim_eq, List.dropWhile_eq_self_iff]
  intro hpos
  -- it begins as what dropping the blanks in front left
  have hfront : (text.dropWhile isBlank).rdropWhile isBlank
      <+: text.dropWhile isBlank :=
    List.rdropWhile_prefix isBlank _
  rw [hfront.getElem hpos]
  exact List.dropWhile_eq_self_iff.mp (List.dropWhile_idempotent isBlank _)
    (lt_of_lt_of_le hpos hfront.length_le)

/-- What is trimmed stays as it is when it is trimmed again. -/
theorem trim_trim (text : List Char) : trim (trim text) = trim text := by
  rw [trim_eq (trim text), dropWhile_trim, trim_eq, List.rdropWhile_idempotent]

end Text

-- ================================================================ tokens

namespace Config

/-- The token that a piece of a value is. -/
def token (config : Config) (piece : List Char) : String :=
  String.ofList (if config.trims then Text.trim piece else piece)

/-- The tokens of a value. -/
def tokens (config : Config) (value : String) : List String :=
  (value.toList.splitOn config.delimiter).map config.token

variable {config : Config} {value token : String}

/-- Trimming adds no character. -/
theorem toList_token_subset (config : Config) {piece : List Char} :
    (config.token piece).toList ⊆ piece := by
  unfold Config.token
  rw [String.toList_ofList]
  split
  · exact fun _ hc => Text.mem_of_mem_trim hc
  · exact fun _ hc => hc

/-- A token is trimmed already. -/
theorem token_token (config : Config) (piece : List Char) :
    config.token (config.token piece).toList = config.token piece := by
  unfold Config.token
  rw [String.toList_ofList]
  split
  · rw [Text.trim_trim]
  · rfl

/-- No token holds a delimiter. -/
theorem delimiter_not_mem_token (h : token ∈ config.tokens value) :
    config.delimiter ∉ token.toList := by
  obtain ⟨piece, hpiece, rfl⟩ := List.mem_map.mp h
  exact fun hc =>
    Text.not_mem_of_mem_splitOn hpiece (config.toList_token_subset hc)

/-- A token is a value of one token, itself. -/
theorem tokens_of_mem (h : token ∈ config.tokens value) :
    config.tokens token = [token] := by
  have hnone := delimiter_not_mem_token h
  obtain ⟨piece, -, rfl⟩ := List.mem_map.mp h
  rw [tokens, List.splitOn_eq_singleton hnone, List.map_singleton,
    config.token_token]

end Config

/-- The tokens of a parameter are those of its values. -/
theorem Expression.tokens_eq_flatMap (config : Config) (entry : Parameter) :
    Expression.tokens config entry = entry.values.flatMap config.tokens := by
  unfold Expression.tokens Parameter.tokens Config.tokens Config.token
  cases config.trims with
  | false => rfl
  | true =>
      dsimp only
      rw [if_pos rfl, List.map_flatMap]
      refine congrArg (List.flatMap · entry.values) (funext fun value => ?_)
      rw [List.map_map]
      refine List.map_congr_left fun piece _ => ?_
      rw [Function.comp_apply, String.toList_ofList, if_pos rfl]

end RecordFilter
