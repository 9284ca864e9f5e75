/-
Expressions: what the parameters of a query ask of a record. Every
parameter whose name is a key of the schema makes one group, the
alternatives of which are its literals; all groups must hold. Parameters
that are ignored, or whose path leads to no scalar, make none. Without any
group the expression is empty, which is not the same as a formula that
always holds.
-/
import RecordFilter.Comparison
import RecordFilter.Config
import RecordFilter.Formula
import RecordFilter.Parameters

namespace RecordFilter

/-- What is asked of a record. -/
inductive Expression where
  | empty
  | formula (f : Formula Comparison)

namespace Expression

/-- Whether nothing is asked. -/
def isEmpty : Expression → Bool
  | empty => true
  | formula _ => false

/-- The formula of an expression that is not empty. -/
def formula? : Expression → Option (Formula Comparison)
  | empty => none
  | formula f => some f

/-- The comparisons from left to right. -/
def comparisons (e : Expression) : List Comparison :=
  e.formula?.elim [] Formula.atoms

/-- The rendered expression. -/
def render (e : Expression) : String :=
  e.formula?.elim "" (Formula.render Comparison.render)

/-- The literal tokens of a parameter as a configuration reads them. -/
def tokens (config : Config) (parameter : Parameter) : List String :=
  let tokens := parameter.tokens config.delimiter
  if config.trims then
    tokens.map fun token => String.ofList (Text.trim token.toList)
  else tokens

/-- One alternative stands for itself. -/
def alternatives : List Comparison → Option (Formula Comparison)
  | [] => none
  | [c] => some (.atom c)
  | cs => some (.any (cs.map .atom))

/-- The group of a parameter, if it makes one. -/
def group? (schema : Schema) (config : Config) (parameter : Parameter) :
    Option (Formula Comparison) :=
  if config.ignores parameter.name then none
  else
    let key := Key.parse parameter.name
    (schema.resolve? key.path.names).bind fun resolution =>
      alternatives <|
        (tokens config parameter).filterMap
          (Comparison.ofToken? key.path resolution key.operator)

/-- The expression that parameters make. -/
def build (schema : Schema) (parameters : Parameters) (config : Config) :
    Expression :=
  match parameters.entries.filterMap (group? schema config) with
  | [] => empty
  | groups => formula (.all groups)

end Expression

end RecordFilter
