/-
Query keys. A key is a field path with an optional operator symbol at its
very end. Hyphens separate segments just as dots do, so that a key can be
written where dots are awkward. Reading a key never fails: whatever is not
an operator symbol, a separator or a subscript is part of a name.
-/
import RecordFilter.Operator
import RecordFilter.Path

namespace RecordFilter

/-- What a query key asks for: a path and the operator to compare with. -/
structure Key where
  path : Path
  operator : Operator
  deriving DecidableEq, Repr

namespace Key

/-- Hyphens read as dots. -/
def dotted (text : List Char) : List Char :=
  text.map fun c => if c = '-' then '.' else c

/-- A key's text without its operator symbol, and the operator, which is
equality where no symbol is written. -/
def splitOperator (text : List Char) : List Char × Operator :=
  match text.getLast?.bind Operator.ofSymbol? with
  | some operator => (text.dropLast, operator)
  | none => (text, .equal)

/-- Reads a key. -/
def parse (raw : String) : Key :=
  let (text, operator) := splitOperator raw.toList
  ⟨Path.ofText (dotted text), operator⟩

/-- The path of a key that is written without an operator symbol. -/
def pathOf (text : String) : Path := Path.ofText (dotted text.toList)

/-- A symbol at the end is the operator, also if the path in front of it ends
in another. -/
theorem splitOperator_symbol (path : List Char) (operator : Operator) :
    splitOperator (path ++ [operator.symbol]) = (path, operator) := by
  rw [splitOperator, List.getLast?_concat, Option.bind_some,
    Operator.ofSymbol?_symbol]
  dsimp only
  rw [List.dropLast_concat]

/-- Without a symbol at the end, the operator is equality. -/
theorem splitOperator_bare {path : List Char}
    (h : ∀ operator : Operator, path.getLast? ≠ some operator.symbol) :
    splitOperator path = (path, .equal) := by
  have hnone : path.getLast?.bind Operator.ofSymbol? = none := by
    rw [Option.bind_eq_none_iff]
    intro c hc
    rw [Option.eq_none_iff_forall_ne_some]
    intro operator hoperator
    rw [← Operator.symbol_of_ofSymbol? hoperator] at hc
    exact h operator hc
  rw [splitOperator, hnone]

/-- An operator symbol at the end is no part of the path, whatever the text
in front of it ends in. -/
theorem parse_append_symbol (text : String) (operator : Operator) :
    parse (text ++ String.singleton operator.symbol)
      = ⟨pathOf text, operator⟩ := by
  have htext : (text ++ String.singleton operator.symbol).toList
      = text.toList ++ [operator.symbol] := by
    rw [String.toList_append, String.toList_singleton]
  rw [parse, htext, splitOperator_symbol]
  rfl

/-- Without a symbol at the end, all of the text is the path. -/
theorem parse_bare {text : String}
    (h : ∀ operator : Operator, text.toList.getLast? ≠ some operator.symbol) :
    parse text = ⟨pathOf text, .equal⟩ := by
  rw [parse, splitOperator_bare h]
  rfl

theorem parse_equal (text : String) :
    parse (text ++ "=") = ⟨pathOf text, .equal⟩ :=
  parse_append_symbol text .equal

theorem parse_notEqual (text : String) :
    parse (text ++ "!") = ⟨pathOf text, .notEqual⟩ :=
  parse_append_symbol text .notEqual

end Key

end RecordFilter
