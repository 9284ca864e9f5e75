/-
The seven comparison operators of a query key. Each is written as one
symbol at the end of the key, and rendered as that symbol followed by `=`.
-/
namespace RecordFilter

/-- A comparison operator. `atMost` and `atLeast` are the two order
comparisons; the last three look for a text inside another. -/
inductive Operator where
  | equal
  | notEqual
  | atMost
  | atLeast
  | startsWith
  | endsWith
  | contains
  deriving DecidableEq, Repr

namespace Operator

/-- The symbol that ends a key with this operator. -/
def symbol : Operator → Char
  | equal => '='
  | notEqual => '!'
  | atMost => '<'
  | atLeast => '>'
  | startsWith => '^'
  | endsWith => '$'
  | contains => '*'

/-- The operator a symbol stands for, if it is an operator symbol. -/
def ofSymbol? : Char → Option Operator
  | '=' => some equal
  | '!' => some notEqual
  | '<' => some atMost
  | '>' => some atLeast
  | '^' => some startsWith
  | '$' => some endsWith
  | '*' => some contains
  | _ => none

/-- The rendered operator: its symbol and an equals sign. -/
def token (op : Operator) : String := String.ofList [op.symbol, '=']

/-- Operators with a meaning for texts alone. -/
def isTextOnly : Operator → Bool
  | startsWith | endsWith | contains => true
  | equal | notEqual | atMost | atLeast => false

theorem ofSymbol?_symbol (op : Operator) : ofSymbol? op.symbol = some op := by
  cases op <;> rfl

theorem symbol_of_ofSymbol? {c : Char} {op : Operator}
    (h : ofSymbol? c = some op) : op.symbol = c := by
  unfold ofSymbol? at h
  split at h <;> simp_all [symbol] <;> (subst h; rfl)

end Operator

end RecordFilter
