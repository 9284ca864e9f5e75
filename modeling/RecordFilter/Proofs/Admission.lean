/-
Admission of tokens: which of them can be compared with a field, by its
kind, its nullability and the operator, and what is said of the others. The
compiler decides this by kind, with the checks of operator and literal in an
order that differs from kind to kind; here it is one table for all kinds.

# The table

- The word for null asks for a nullable field and for equality or its
  negation.
- Texts admit every other token under every operator.
- No other kind admits an operator for texts, whatever the token.
- An order operator asks for an orderable kind, and the token for a value
  of the kind.

Where both the token and the order are at fault, the token is named.

`failure?_test` says that the compiler follows the table.
-/
import RecordFilter.Predicate
import RecordFilter.Proofs.Formula

namespace RecordFilter

open Formula (failure?)

-- ============================================================ the table

/-- The operators that compare by order. -/
def Operator.isOrder : Operator → Bool
  | .atMost | .atLeast => true
  | .equal | .notEqual | .startsWith | .endsWith | .contains => false

namespace LeafKind

/-- What a token should have been, if it denotes no value of the kind.
Every token is a text, an opaque value, and a variant where none is
declared. -/
def objection? (token : String) : LeafKind → Option Expectation
  | bool =>
      if Text.sameIgnoringAsciiCase token "true"
        || Text.sameIgnoringAsciiCase token "false"
      then none else some .boolean
  | int | uint | float =>
      if (Number.read? token.toList).isSome then none else some .number
  | enum variants =>
      if variants.isEmpty || variants.any (Text.sameIgnoringAsciiCase · token)
      then none else some .variant
  | dateTime =>
      if (Calendar.Moment.read? token.toList).isSome then none
      else some .dateTime
  | text | other => none

/-- Whether a token other than the word for null can be compared. -/
def admitsLiteral (kind : LeafKind) (operator : Operator) (token : String) :
    Bool :=
  kind.isText
    || (!operator.isTextOnly && (!operator.isOrder || kind.isOrderable)
      && (kind.objection? token).isNone)

/-- Whether a token can be compared. -/
def admits (kind : LeafKind) (nullable : Bool) (operator : Operator)
    (token : String) : Bool :=
  if Literal.isNullKeyword token then
    nullable && (operator == .equal || operator == .notEqual)
  else kind.admitsLiteral operator token

/-- What is said of a token other than the word for null that cannot be
compared. -/
def literalRefusal (kind : LeafKind) (path : Path) (operator : Operator)
    (token : String) : CompileError :=
  match operator.isTextOnly, kind.objection? token with
  | false, some expected => .invalidLiteral path token expected
  | _, _ => .invalidOperator path operator kind.label

/-- What is said of a token that cannot be compared. -/
def refusal (kind : LeafKind) (nullable : Bool) (path : Path)
    (operator : Operator) (token : String) : CompileError :=
  if Literal.isNullKeyword token then
    if nullable then .invalidOperator path operator kind.label
    else .nullComparison path operator
  else kind.literalRefusal path operator token

/-- A refusal is about an operator, a literal or null: it never says that a
field is unknown, and never that it is a record. -/
theorem refusal_ne (kind : LeafKind) (nullable : Bool) (path : Path)
    (operator : Operator) (token : String) :
    (∀ path', kind.refusal nullable path operator token ≠ .unknownField path')
      ∧ ∀ path' operator',
        kind.refusal nullable path operator token
          ≠ .invalidOperator path' operator' "record" := by
  have hlabel : kind.label ≠ "record" := by
    cases kind <;> simp [label]
  unfold refusal literalRefusal
  constructor
  · intro path'
    split <;> split <;> simp
  · intro path' operator'
    split <;> split <;> simp [hlabel]

end LeafKind

-- =========================================================== null tokens

namespace Comparison

theorem failure?_nullTest (c : Comparison) (kind : LeafKind)
    (nullable : Bool) :
    failure? (c.nullTest kind nullable)
      = if nullable && (c.operator == .equal || c.operator == .notEqual)
        then none
        else some (if nullable
          then .invalidOperator c.path c.operator kind.label
          else .nullComparison c.path c.operator) := by
  unfold nullTest
  cases nullable with
  | false => rfl
  | true => cases c.operator <;> rfl

-- ======================================================== other literals

theorem isSome_bound? (operator : Operator) :
    (bound? operator).isSome = operator.isOrder := by
  cases operator <;> rfl

/-- The words for truth values are those that can be read as one. -/
theorem objection?_bool (raw : String) :
    LeafKind.bool.objection? raw
      = if (readBool? raw).isSome then none else some .boolean := by
  unfold LeafKind.objection? readBool?
  cases Text.sameIgnoringAsciiCase raw "true" <;>
    cases Text.sameIgnoringAsciiCase raw "false" <;> rfl

/-- The variants that are declared are those that have a position. -/
theorem objection?_enum (variants : List String) (raw : String) :
    (LeafKind.enum variants).objection? raw
      = if variants.isEmpty || (variantPosition? variants raw).isSome then none
        else some .variant := by
  rw [variantPosition?, List.findIdx?_isSome]
  rfl

/-- The test of a literal follows the table. -/
theorem failure?_literalTest (c : Comparison) (kind : LeafKind)
    (raw : String) :
    failure? (c.literalTest kind raw)
      = if kind.admitsLiteral c.operator raw then none
        else some (kind.literalRefusal c.path c.operator raw) := by
  unfold literalTest LeafKind.admitsLiteral LeafKind.literalRefusal
  cases htext : c.operator.isTextOnly with
  | true =>
      -- the operator is for texts: no literal is looked at
      cases kind <;> rfl
  | false =>
      rw [← isSome_bound?]
      cases kind with
      | text => rfl
      | other =>
          cases bound? c.operator <;> rfl
      | bool =>
          rw [objection?_bool]
          cases readBool? raw <;> cases bound? c.operator <;> rfl
      | int | uint | float =>
          unfold LeafKind.objection?
          cases Number.read? raw.toList <;> cases bound? c.operator <;> rfl
      | dateTime =>
          unfold LeafKind.objection?
          cases Calendar.Moment.read? raw.toList <;>
            cases bound? c.operator <;> rfl
      | enum variants =>
          rw [objection?_enum]
          cases variants with
          | nil =>
              -- an open enum takes every token, and gives none a position
              cases bound? c.operator <;> rfl
          | cons variant rest =>
              dsimp only
              cases variantPosition? (variant :: rest) raw <;>
                cases bound? c.operator <;> rfl

-- ============================================================ all tokens

theorem raw?_literalOf (kind : LeafKind) (token : String) :
    (literalOf kind token).raw?
      = if Literal.isNullKeyword token then none else some token := by
  unfold literalOf
  cases Literal.isNullKeyword token with
  | true => rfl
  | false => cases kind <;> rfl

/-- The rewriting of an operator for texts changes no decision: whatever is
not null can be compared with a text under any operator. -/
theorem operatorOf_eq {kind : LeafKind} {token : String} (operator : Operator)
    (h : Literal.isNullKeyword token = true ∨ kind.isText = false) :
    operatorOf kind token operator = operator := by
  unfold operatorOf
  rcases h with h | h
  · rw [if_pos h]
  · split
    · rfl
    · cases kind with
      | text => cases h
      | bool | int | uint | float | enum variants | dateTime | other => rfl

/-- The comparison of a token with a scalar. -/
def ofToken (path : Path) (kind : LeafKind) (operator : Operator)
    (token : String) : Comparison :=
  ⟨path, operatorOf kind token operator, literalOf kind token, kind⟩

/-- The compiler follows the table. -/
theorem failure?_test (kind : LeafKind) (nullable : Bool) (path : Path)
    (operator : Operator) (token : String) :
    failure? ((ofToken path kind operator token).test kind nullable)
      = if kind.admits nullable operator token then none
        else some (kind.refusal nullable path operator token) := by
  have hraw : (ofToken path kind operator token).literal.raw?
      = if Literal.isNullKeyword token then none else some token :=
    raw?_literalOf kind token
  unfold test LeafKind.admits LeafKind.refusal
  rw [hraw]
  cases hnull : Literal.isNullKeyword token with
  | true =>
      have hoperator : (ofToken path kind operator token).operator
          = operator :=
        operatorOf_eq operator (Or.inl hnull)
      simp only [if_true]
      rw [failure?_nullTest, hoperator]
      rfl
  | false =>
      simp only [Bool.false_eq_true, if_false]
      rw [failure?_literalTest]
      cases htext : kind.isText with
      | true =>
          unfold LeafKind.admitsLiteral
          rw [htext, Bool.true_or, Bool.true_or, if_pos rfl, if_pos rfl]
      | false =>
          have hoperator : (ofToken path kind operator token).operator
              = operator :=
            operatorOf_eq operator (Or.inr htext)
          rw [hoperator]
          rfl

end Comparison

end RecordFilter
