/-
Predicates, compiled from expressions. Compilation resolves every path again
and turns every literal into a typed test, so that all that can go wrong
goes wrong here: evaluation cannot fail. An empty expression compiles to the
predicate that restricts nothing.
-/
import RecordFilter.Check
import RecordFilter.Error
import RecordFilter.Expression

namespace RecordFilter

namespace Comparison

/-- The direction of an order operator. -/
def bound? : Operator → Option Bound
  | .atMost => some .atMost
  | .atLeast => some .atLeast
  | _ => none

/-- The truth value a literal denotes. -/
def readBool? (raw : String) : Option Bool :=
  if Text.sameIgnoringAsciiCase raw "true" then some true
  else if Text.sameIgnoringAsciiCase raw "false" then some false
  else none

/-- The test of a text; the order operators test for equality. -/
def textTest (operator : Operator) (raw : String) : Test :=
  match operator with
  | .equal | .notEqual | .atMost | .atLeast => .textEquals raw
  | .startsWith => .textStartsWith raw
  | .endsWith => .textEndsWith raw
  | .contains => .textContains raw

/-- The test for null, which only a nullable field allows, and only by
equality. -/
def nullTest (c : Comparison) (kind : LeafKind) (nullable : Bool) :
    Except CompileError Test :=
  if !nullable then .error (.nullComparison c.path c.operator)
  else
    match c.operator with
    | .equal | .notEqual => .ok .isNull
    | _ => .error (.invalidOperator c.path c.operator kind.label)

/-- The test for a literal text. -/
def literalTest (c : Comparison) (kind : LeafKind) (raw : String) :
    Except CompileError Test :=
  let operatorError := .error (.invalidOperator c.path c.operator kind.label)
  let literalError expected := .error (.invalidLiteral c.path raw expected)
  let bound? := bound? c.operator
  if c.operator.isTextOnly && !kind.isText then operatorError
  else
    match kind with
    | .text => .ok (textTest c.operator raw)
    | .bool =>
      match readBool? raw, bound? with
      | none, _ => literalError .boolean
      | some b, none => .ok (.isBool b)
      | some _, some _ => operatorError
    | .int | .uint | .float =>
      match Number.read? raw.toList, bound? with
      | none, _ => literalError .number
      | some n, none => .ok (.numberEquals n)
      | some n, some bound => .ok (.numberWithin bound n)
    | .enum variants =>
      match variantPosition? variants raw, bound? with
      | some _, none => .ok (.variantEquals raw)
      | some position, some bound =>
        .ok (.variantWithin bound position variants)
      | none, bound? =>
        if !variants.isEmpty then literalError .variant
        else if bound?.isSome then operatorError
        else .ok (.variantEquals raw)
    | .dateTime =>
      match Calendar.Moment.read? raw.toList, bound? with
      | none, _ => literalError .dateTime
      | some m, none => .ok (.dateTimeEquals m)
      | some m, some bound => .ok (.dateTimeWithin bound m)
    | .other => if bound?.isSome then operatorError else .ok (.otherEquals raw)

/-- The test of a comparison. The one for inequality is that for equality,
to be negated. -/
def test (c : Comparison) (kind : LeafKind) (nullable : Bool) :
    Except CompileError Test :=
  match c.literal.raw? with
  | none => c.nullTest kind nullable
  | some raw => c.literalTest kind raw

/-- Compiles a comparison. The kind that is stored in it does not count. -/
def compile (schema : Schema) (c : Comparison) : Except CompileError Check :=
  match schema.resolve? c.path.names with
  | none => .error (.unknownField c.path)
  | some resolution =>
    match resolution.terminal with
    | .record _ => .error (.invalidOperator c.path c.operator "record")
    | .leaf kind =>
      (c.test kind resolution.nullable).map fun test =>
        { steps := List.zipWith
            (fun field segment => ⟨field, segment.subscripts⟩)
            resolution.fields c.path.segments
          test
          negated := c.operator == .notEqual }

end Comparison

/-- A compiled expression. -/
inductive Predicate where
  | unrestricted
  | restricted (formula : Formula Check) (expression : String)

namespace Predicate

/-- Whether the predicate restricts nothing. -/
def isUnrestricted : Predicate → Bool
  | unrestricted => true
  | restricted .. => false

/-- The rendered expression that the predicate was compiled from. -/
def expression? : Predicate → Option String
  | unrestricted => none
  | restricted _ expression => some expression

/-- Whether a record is accepted. -/
def accepts (p : Predicate) (record : Record) : Bool :=
  match p with
  | unrestricted => true
  | restricted formula _ => formula.holds fun check => check.accepts record

end Predicate

/-- Compiles an expression. The error is that of the first comparison, from
left to right, that cannot be compiled. -/
def Expression.compile (schema : Schema) :
    Expression → Except CompileError Predicate
  | .empty => .ok .unrestricted
  | .formula f =>
    (f.traverse (Comparison.compile schema)).map fun compiled =>
      .restricted compiled (f.render Comparison.render)

end RecordFilter
