/-
What can go wrong. A schema or a configuration can be unusable before any
query is read. An expression can be one that cannot be compiled; the cause
is then always one comparison, named by its path.
-/
import RecordFilter.Operator
import RecordFilter.Path

namespace RecordFilter

-- ================================================================== setup

/-- Why a schema or a configuration cannot be used. -/
inductive SetupError where
  | toml
  | json
  | invalidDelimiter (delimiter : Char)
  | duplicateField (schema field : String)
  deriving DecidableEq, Repr

/-- The text of an error. -/
def SetupError.message : SetupError → String
  | toml => "invalid toml"
  | json => "invalid json"
  | invalidDelimiter c =>
    "value delimiter '" ++ String.singleton c
      ++ "' would collide with key or literal syntax"
  | duplicateField schema field =>
    "schema '" ++ schema ++ "' declares field '" ++ field ++ "' more than once"

-- ============================================================ compilation

/-- What a literal should have been. -/
inductive Expectation where
  | boolean
  | number
  | variant
  | dateTime
  deriving DecidableEq, Repr

/-- What is wrong with a literal that is not as expected. -/
def Expectation.complaint : Expectation → String
  | boolean => "expected true or false"
  | number => "expected a number"
  | variant => "unknown enum variant"
  | dateTime => "expected a date/time"

/-- Why a comparison cannot be compiled. -/
inductive CompileError where
  | unknownField (path : Path)
  | nullComparison (path : Path) (operator : Operator)
  | invalidOperator (path : Path) (operator : Operator) (kind : String)
  | invalidLiteral (path : Path) (literal : String) (expected : Expectation)
  deriving DecidableEq, Repr

namespace CompileError

/-- The path of the comparison at fault. -/
def path : CompileError → Path
  | unknownField path | nullComparison path _ | invalidOperator path _ _
  | invalidLiteral path _ _ => path

/-- Whether the literal is at fault. -/
def isLiteralError : CompileError → Bool
  | invalidLiteral .. => true
  | _ => false

/-- The text of an error. -/
def message : CompileError → String
  | unknownField path => "unknown field path '" ++ path.render ++ "'"
  | nullComparison path operator =>
    "field '" ++ path.render ++ "' is not nullable and cannot be compared "
      ++ operator.token ++ " null"
  | invalidOperator path operator kind =>
    "operator " ++ operator.token ++ " is not valid for " ++ kind ++ " field '"
      ++ path.render ++ "'"
  | invalidLiteral path literal expected =>
    "invalid literal '" ++ literal ++ "' for field '" ++ path.render ++ "': "
      ++ expected.complaint

end CompileError

end RecordFilter
