/-
What comparisons compile to, as a judgment: `Typed` says that the path of a
comparison leads to a scalar of some kind and that its literal makes some
test for it. The compiler is read through this judgment alone
(`compile_eq_ok_iff`), and the test through two facts: it suits the kind it
was made for, and it is the one for null exactly if the literal is null.

# Other paths

Of the path of a comparison, its test takes nothing: errors name it, and that
is all (`test_withPath`). So a comparison can be moved to any path that leads
to the same place (`Typed.withPath`).

# Inequality

An inequality has no test of its own. `compile_affirmed` says so of the
compiler as a whole: dropping the negation from a comparison leaves its
steps and its test as they are, and in an error nothing but the operator
that it names.
-/
import RecordFilter.Predicate

namespace RecordFilter

-- ================================================================ errors

namespace CompileError

/-- What can be wrong with a comparison. -/
inductive Cause where
  | field
  | null
  | operator
  | literal
  deriving DecidableEq, Repr

/-- What is wrong, leaving out the particulars. -/
def cause : CompileError → Cause
  | unknownField _ => .field
  | nullComparison _ _ => .null
  | invalidOperator _ _ _ => .operator
  | invalidLiteral _ _ _ => .literal

/-- The same error about another operator. -/
def withOperator (operator : Operator) : CompileError → CompileError
  | unknownField path => unknownField path
  | nullComparison path _ => nullComparison path operator
  | invalidOperator path _ kind => invalidOperator path operator kind
  | invalidLiteral path literal expected =>
      invalidLiteral path literal expected

/-- The same error about another path. -/
def withPath (path : Path) : CompileError → CompileError
  | unknownField _ => unknownField path
  | nullComparison _ operator => nullComparison path operator
  | invalidOperator _ operator kind => invalidOperator path operator kind
  | invalidLiteral _ literal expected => invalidLiteral path literal expected

@[simp] theorem cause_withOperator (operator : Operator) (e : CompileError) :
    (e.withOperator operator).cause = e.cause := by
  cases e <;> rfl

@[simp] theorem cause_withPath (path : Path) (e : CompileError) :
    (e.withPath path).cause = e.cause := by
  cases e <;> rfl

@[simp] theorem path_withOperator (operator : Operator) (e : CompileError) :
    (e.withOperator operator).path = e.path := by
  cases e <;> rfl

end CompileError

-- ================================================================= tests

/-- Whether a test asks about values of a kind. Every kind can be asked for
null. -/
def Test.suits (kind : LeafKind) : Test → Bool
  | isNull => true
  | isBool _ => kind == .bool
  | numberEquals _ | numberWithin _ _ => kind.isNumeric
  | variantEquals _ | variantWithin _ _ _ => kind.isEnum
  | dateTimeEquals _ | dateTimeWithin _ _ => kind == .dateTime
  | textEquals _ | textStartsWith _ | textEndsWith _ | textContains _ =>
      kind.isText
  | otherEquals _ => kind == .other

/-- Null passes the test for null and no other. -/
theorem Test.accepts_null (test : Test) :
    test.accepts .null = true ↔ test = .isNull := by
  constructor
  · intro h
    cases test with
    | isNull => rfl
    | isBool _ | numberEquals _ | numberWithin _ _ | variantEquals _
    | variantWithin _ _ _ | dateTimeEquals _ | dateTimeWithin _ _
    | textEquals _ | textStartsWith _ | textEndsWith _ | textContains _
    | otherEquals _ =>
        cases h
  · rintro rfl
    rfl

namespace Comparison

variable {c : Comparison} {kind : LeafKind} {nullable : Bool} {test : Test}

/-- The literal null makes the test for null, if any. -/
theorem eq_isNull_of_nullTest (h : c.nullTest kind nullable = .ok test) :
    test = .isNull := by
  unfold nullTest at h
  cases nullable with
  | false => cases h
  | true =>
      cases hoperator : c.operator with
      | equal | notEqual =>
          rw [hoperator] at h
          cases h
          rfl
      | atMost | atLeast | startsWith | endsWith | contains =>
          rw [hoperator] at h
          cases h

theorem suits_textTest (operator : Operator) (raw : String) :
    (textTest operator raw).suits .text = true
      ∧ textTest operator raw ≠ .isNull := by
  cases operator <;> exact ⟨rfl, nofun⟩

/-- The test of a literal suits the kind, and does not ask for null. -/
theorem suits_of_literalTest {raw : String}
    (h : c.literalTest kind raw = .ok test) :
    test.suits kind = true ∧ test ≠ .isNull := by
  unfold literalTest at h
  dsimp only at h
  split at h
  · cases h
  · cases kind with
    | text =>
        cases h
        exact suits_textTest c.operator raw
    | bool =>
        dsimp only at h
        split at h <;> cases h
        exact ⟨rfl, nofun⟩
    | int | uint | float =>
        dsimp only at h
        split at h <;> cases h <;> exact ⟨rfl, nofun⟩
    | enum variants =>
        dsimp only at h
        split at h
        · cases h
          exact ⟨rfl, nofun⟩
        · cases h
          exact ⟨rfl, nofun⟩
        · -- an undeclared variant, which only an open enum lets pass
          split at h
          · cases h
          · split at h <;> cases h
            exact ⟨rfl, nofun⟩
    | dateTime =>
        dsimp only at h
        split at h <;> cases h <;> exact ⟨rfl, nofun⟩
    | other =>
        dsimp only at h
        split at h <;> cases h
        exact ⟨rfl, nofun⟩

theorem raw?_eq_none_iff {literal : Literal} :
    literal.raw? = none ↔ literal = .null := by
  cases literal <;> simp [Literal.raw?]

/-- The test of a comparison suits the kind of its field. -/
theorem suits_of_test (h : c.test kind nullable = .ok test) :
    test.suits kind = true := by
  unfold Comparison.test at h
  split at h
  · rw [eq_isNull_of_nullTest h]
    rfl
  · exact (suits_of_literalTest h).1

/-- The test is the one for null exactly if the literal is null. -/
theorem test_eq_isNull_iff (h : c.test kind nullable = .ok test) :
    test = .isNull ↔ c.literal = .null := by
  rw [← raw?_eq_none_iff]
  unfold Comparison.test at h
  split at h
  · next hraw => exact iff_of_true (eq_isNull_of_nullTest h) hraw
  · next raw hraw =>
    rw [hraw]
    exact iff_of_false (suits_of_literalTest h).2 (Option.some_ne_none raw)

end Comparison

-- ============================================================ resolution

/-- The steps that a path takes into a record, once it is resolved: the
declared names, with the subscripts of its segments. -/
def Resolution.steps (r : Resolution) (path : Path) : List Step :=
  List.zipWith (fun field segment => ⟨field, segment.subscripts⟩) r.fields
    path.segments

namespace Comparison

/-- A comparison that can be compiled: its path leads to a scalar, and its
literal makes a test for it. -/
structure Typed (schema : Schema) (c : Comparison) (r : Resolution)
    (kind : LeafKind) (test : Test) : Prop where
  resolved : schema.resolve? c.path.names = some r
  scalar : r.terminal = .leaf kind
  tested : c.test kind r.nullable = .ok test

variable {schema : Schema} {c : Comparison} {check : Check}

/-- What a comparison compiles to. -/
theorem compile_eq_ok_iff :
    c.compile schema = .ok check
      ↔ ∃ r kind test, c.Typed schema r kind test
        ∧ check = ⟨r.steps c.path, test, c.operator == .notEqual⟩ := by
  unfold Comparison.compile
  constructor
  · intro h
    cases hresolve : schema.resolve? c.path.names with
    | none => rw [hresolve] at h; cases h
    | some r =>
        rw [hresolve] at h
        dsimp only at h
        cases hterminal : r.terminal with
        | record nested => rw [hterminal] at h; cases h
        | leaf kind =>
            rw [hterminal] at h
            dsimp only at h
            cases htest : c.test kind r.nullable with
            | error e => rw [htest] at h; cases h
            | ok test =>
                rw [htest] at h
                cases h
                exact ⟨r, kind, test, ⟨hresolve, hterminal, htest⟩, rfl⟩
  · rintro ⟨r, kind, test, h, rfl⟩
    rw [h.resolved]
    dsimp only
    rw [h.scalar]
    dsimp only
    rw [h.tested]
    rfl

-- =========================================================== other paths

/-- The same comparison of another path. -/
def withPath (path : Path) (c : Comparison) : Comparison := { c with path }

/-- A test does not depend on the path, which only its errors name. -/
theorem test_withPath (path : Path) (c : Comparison) (kind : LeafKind)
    (nullable : Bool) :
    (c.withPath path).test kind nullable
      = (c.test kind nullable).mapError (CompileError.withPath path) := by
  obtain ⟨path', operator, literal, stored⟩ := c
  unfold withPath Comparison.test
  dsimp only
  cases literal.raw? with
  | none => cases nullable <;> cases operator <;> rfl
  | some raw =>
      unfold literalTest
      dsimp only
      split
      · rfl
      · cases kind with
        | text => rfl
        | other =>
            dsimp only
            cases bound? operator <;> rfl
        | bool =>
            dsimp only
            cases readBool? raw <;> cases bound? operator <;> rfl
        | int | uint | float =>
            dsimp only
            cases Number.read? raw.toList <;> cases bound? operator <;> rfl
        | enum variants =>
            dsimp only
            cases variantPosition? variants raw <;> cases bound? operator <;>
              cases variants <;> rfl
        | dateTime =>
            dsimp only
            cases Calendar.Moment.read? raw.toList <;>
              cases bound? operator <;> rfl

/-- Where a path leads to what another did, the test is as it was. -/
theorem Typed.withPath {r : Resolution} {kind : LeafKind} {test : Test}
    {path : Path} (h : c.Typed schema r kind test)
    (hresolved : schema.resolve? path.names = some r) :
    (c.withPath path).Typed schema r kind test :=
  ⟨hresolved, h.scalar, by rw [test_withPath, h.tested]; rfl⟩

-- ============================================================ inequality

/-- The comparison as an equality. -/
def affirmed (c : Comparison) : Comparison := { c with operator := .equal }

/-- An inequality has the test of the equality. -/
theorem test_affirmed (h : c.operator = .notEqual) (kind : LeafKind)
    (nullable : Bool) :
    c.affirmed.test kind nullable
      = (c.test kind nullable).mapError
        (CompileError.withOperator .equal) := by
  obtain ⟨path, operator, literal, stored⟩ := c
  cases h
  -- the operators part ways only at tests of order and of parts of a text
  unfold affirmed Comparison.test
  dsimp only
  cases literal.raw? with
  | none => cases nullable <;> rfl
  | some raw =>
      unfold literalTest
      cases kind with
      | text => rfl
      | other => rfl
      | bool =>
          dsimp only
          cases readBool? raw <;> rfl
      | int | uint | float =>
          dsimp only
          cases Number.read? raw.toList <;> rfl
      | enum variants =>
          dsimp only
          cases variantPosition? variants raw with
          | some position => rfl
          | none => cases variants <;> rfl
      | dateTime =>
          dsimp only
          cases Calendar.Moment.read? raw.toList <;> rfl

/-- An inequality compiles to the check of the equality, negated, and fails
as it fails. -/
theorem compile_affirmed (h : c.operator = .notEqual) (schema : Schema) :
    c.affirmed.compile schema
      = ((c.compile schema).mapError (CompileError.withOperator .equal)).map
          fun check => { check with negated := false } := by
  have hpath : c.affirmed.path = c.path := rfl
  unfold Comparison.compile
  rw [hpath]
  cases schema.resolve? c.path.names with
  | none => rfl
  | some r =>
      dsimp only
      cases r.terminal with
      | record nested => rfl
      | leaf kind =>
          dsimp only
          rw [test_affirmed h]
          cases c.test kind r.nullable <;> rfl

/-- An inequality is typed as the equality with the same literal is. -/
theorem Typed.affirmed {r : Resolution} {kind : LeafKind} {test : Test}
    (h : c.Typed schema r kind test) (hoperator : c.operator = .notEqual) :
    c.affirmed.Typed schema r kind test :=
  ⟨h.resolved, h.scalar, by rw [test_affirmed hoperator, h.tested]; rfl⟩

end Comparison

end RecordFilter
