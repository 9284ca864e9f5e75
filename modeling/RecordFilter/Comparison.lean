/-
Comparisons: a path, an operator and a literal. A literal token becomes a
comparison by the kind of the field that the path leads to; a path that
leads to a record allows none. The word for null is one for every kind. On
texts the order operators mean equality.
-/
import RecordFilter.Key
import RecordFilter.Literal
import RecordFilter.Schema.Resolution

namespace RecordFilter

/-- A comparison of a field with a literal. -/
structure Comparison where
  path : Path
  operator : Operator
  literal : Literal
  kind : LeafKind
  deriving DecidableEq, Repr

namespace Comparison

/-- The literal that a token is for a kind of field. -/
def literalOf (kind : LeafKind) (token : String) : Literal :=
  if Literal.isNullKeyword token then .null
  else
    match kind with
    | .bool | .int | .uint | .float | .enum _ => .bare token
    | .text | .other => .quoted token
    | .dateTime => .dateTime token

/-- The operator that a comparison has for a kind of field: texts have no
order, except that null is left to be refused as it is written. -/
def operatorOf (kind : LeafKind) (token : String) (operator : Operator) :
    Operator :=
  if Literal.isNullKeyword token then operator
  else
    match kind, operator with
    | .text, .atMost | .text, .atLeast => .equal
    | _, operator => operator

/-- The comparison of a field with a token, unless the field has no scalar
form. -/
def ofToken? (path : Path) (resolution : Resolution) (operator : Operator)
    (token : String) : Option Comparison :=
  resolution.leaf?.map fun kind =>
    ⟨path, operatorOf kind token operator, literalOf kind token, kind⟩

/-- The rendered comparison. -/
def render (c : Comparison) : String :=
  c.path.render ++ " " ++ c.operator.token ++ " " ++ c.literal.render

end Comparison

end RecordFilter
