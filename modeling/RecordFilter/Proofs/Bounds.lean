/-
Bounds and equality. Equality and order are separate tests, made from
different data: a variant is equal by its name and ordered by its position,
a number equal by one comparison and ordered by another. Still they are
three readings of one comparison. `LeafKind.ordering?` says how a value
compares with a token, for any kind that has an order, and every test of
the kind asks something of that (`Comparison.accepts_of_literalTest`). So a
value within both bounds is equal, and one that compares at all is within
one of them.

# What compares

Numbers compare unless one is the value that is no number; moments compare
with texts that can be read as one; names compare if they are declared.
Where several variants have one name, the first stands for all of them, so
that equal names have one position and different names have different ones
(`variantPosition?_eq_iff`).

# From tests to comparisons

Which tokens a kind takes does not depend on the operator, as long as that
is not one for texts. A token that can be asked for with `=` can therefore
be asked for as a bound (`Comparison.exists_predicate`). A path that selects
one value hands the test's answer on.
-/
import RecordFilter.Proofs.Admission
import RecordFilter.Proofs.Reading

namespace RecordFilter

-- ============================================================= orderings

/-- What an operator asks of the way in which a value compares with the
literal. An inequality is the negation of what is asked for it. -/
def Operator.admits : Operator → Ordering → Bool
  | atMost => Ordering.isLE
  | atLeast => Ordering.isGE
  | equal | notEqual | startsWith | endsWith | contains => (· == .eq)

/-- The bounds meet in equality. -/
theorem admits_both_iff (ordering? : Option Ordering) :
    (ordering?.any Operator.atMost.admits = true
      ∧ ordering?.any Operator.atLeast.admits = true)
      ↔ ordering?.any Operator.equal.admits = true := by
  cases ordering? with
  | none => decide
  | some ordering => cases ordering <;> decide

/-- The bounds leave nothing out. -/
theorem admits_either_iff (ordering? : Option Ordering) :
    (ordering?.any Operator.atMost.admits = true
      ∨ ordering?.any Operator.atLeast.admits = true)
      ↔ ordering?.isSome = true := by
  cases ordering? with
  | none => decide
  | some ordering => cases ordering <;> decide

/-- Operators that are not for texts are bounds or ask for equality. -/
theorem Comparison.bound?_or_equal {operator : Operator}
    (h : operator.isTextOnly = false) :
    (∃ bound, bound? operator = some bound ∧ operator.admits = bound.admits)
      ∨ bound? operator = none ∧ operator.admits = (· == .eq) := by
  cases operator with
  | atMost => exact Or.inl ⟨.atMost, rfl, rfl⟩
  | atLeast => exact Or.inl ⟨.atLeast, rfl, rfl⟩
  | equal | notEqual => exact Or.inr ⟨rfl, rfl⟩
  | startsWith | endsWith | contains => cases h

-- ============================================================== variants

/-- The place of a name among variants: that of the first one of the name,
whatever the case of its letters. -/
structure FirstOfName (variants : List String) (name : String) (i : Nat) :
    Prop where
  named : ∃ variant, variants[i]? = some variant
    ∧ Text.sameIgnoringAsciiCase variant name = true
  first : ∀ j < i, ∀ variant, variants[j]? = some variant →
    Text.sameIgnoringAsciiCase variant name = false

variable {variants : List String} {name name' : String} {i : Nat}

/-- The look-up finds the first variant of a name. -/
theorem variantPosition?_eq_some_iff :
    variantPosition? variants name = some i ↔ FirstOfName variants name i := by
  rw [variantPosition?, List.findIdx?_eq_some_iff_getElem]
  constructor
  · rintro ⟨hi, hnamed, hfirst⟩
    refine ⟨⟨_, List.getElem?_eq_getElem hi, hnamed⟩,
      fun j hj variant hvariant => ?_⟩
    obtain ⟨-, rfl⟩ := List.getElem?_eq_some_iff.mp hvariant
    exact Bool.not_eq_true _ ▸ hfirst j hj
  · rintro ⟨⟨variant, hvariant, hnamed⟩, hfirst⟩
    obtain ⟨hi, rfl⟩ := List.getElem?_eq_some_iff.mp hvariant
    refine ⟨hi, hnamed, fun j hj => ?_⟩
    rw [hfirst j hj _ (List.getElem?_eq_getElem _), Bool.false_eq_true]
    exact not_false

/-- Names that are the same have one position. -/
theorem variantPosition?_congr
    (h : Text.sameIgnoringAsciiCase name name' = true) :
    variantPosition? variants name = variantPosition? variants name' := by
  rw [Text.sameIgnoringAsciiCase_iff] at h
  refine congrArg (List.findIdx? · variants) (funext fun variant => ?_)
  rw [Text.sameIgnoringAsciiCase, Text.sameIgnoringAsciiCase, h]

/-- A declared position belongs to one name. -/
theorem variantPosition?_eq_iff
    (h : variantPosition? variants name' = some i) :
    variantPosition? variants name = some i
      ↔ Text.sameIgnoringAsciiCase name name' = true := by
  constructor
  · intro hname
    obtain ⟨variant, hvariant, hnamed⟩ :=
      (variantPosition?_eq_some_iff.mp hname).named
    obtain ⟨variant', hvariant', hnamed'⟩ :=
      (variantPosition?_eq_some_iff.mp h).named
    obtain rfl := Option.some.inj (hvariant.symm.trans hvariant')
    rw [Text.sameIgnoringAsciiCase_iff] at hnamed hnamed' ⊢
    exact hnamed.symm.trans hnamed'
  · intro hsame
    rw [variantPosition?_congr hsame, h]

-- ================================================================= kinds

namespace LeafKind

/-- How a value compares with a token, for kinds with an order. -/
def ordering? (token : String) (v : Value) : LeafKind → Option Ordering
  | int | uint | float =>
      (Number.read? token.toList).bind fun n =>
        v.number?.bind fun actual => actual.compare? n
  | enum variants =>
      (variantPosition? variants token).bind fun position =>
        (v.variant?.bind (variantPosition? variants)).map fun actual =>
          compare actual position
  | dateTime =>
      (Calendar.Moment.read? token.toList).bind fun m =>
        v.dateTime?.map fun actual => actual.order m
  | bool | text | other => none

/-- A token for a moment can be read as one. -/
theorem exists_moment {token : String} (h : dateTime.objection? token = none) :
    ∃ m, Calendar.Moment.read? token.toList = some m := by
  rw [objection?] at h
  split at h
  · next hread => exact Option.isSome_iff_exists.mp hread
  · cases h

/-- A token for a variant, where some are declared, is one of them. -/
theorem exists_position {variants : List String} {token : String}
    (horder : (enum variants).isOrderable = true)
    (h : (enum variants).objection? token = none) :
    ∃ position, variantPosition? variants token = some position := by
  have hdeclared : variants.isEmpty = false := Bool.not_eq_true' _ ▸ horder
  rw [Comparison.objection?_enum, hdeclared, Bool.false_or] at h
  split at h
  · next hposition => exact Option.isSome_iff_exists.mp hposition
  · cases h

/-- The values that compare with a token: numbers for which the comparison
is defined, moments and texts that can be read as one, and declared
names. -/
inductive Comparable (token : String) : LeafKind → Value → Prop where
  | number {kind : LeafKind} {v : Value} {n actual : Number}
      {ordering : Ordering} (hkind : kind.isNumeric = true)
      (htoken : Number.read? token.toList = some n)
      (hv : v.number? = some actual) (h : actual.compare? n = some ordering) :
      Comparable token kind v
  | moment (m : Calendar.Moment) : Comparable token .dateTime (.dateTime m)
  | momentText {s : String} {m : Calendar.Moment}
      (h : Calendar.Moment.read? s.toList = some m) :
      Comparable token .dateTime (.text s)
  | variant {variants : List String} {name variant : String}
      (hmem : variant ∈ variants)
      (h : Text.sameIgnoringAsciiCase variant name = true) :
      Comparable token (.enum variants) (.variant name)
  | variantText {variants : List String} {name variant : String}
      (hmem : variant ∈ variants)
      (h : Text.sameIgnoringAsciiCase variant name = true) :
      Comparable token (.enum variants) (.text name)

/-- A declared variant has a position. -/
theorem isSome_variantPosition?_iff {variants : List String} {name : String} :
    (variantPosition? variants name).isSome = true
      ↔ ∃ variant ∈ variants,
        Text.sameIgnoringAsciiCase variant name = true := by
  rw [variantPosition?, List.findIdx?_isSome, List.any_eq_true]

section Ordered

variable {token : String} {v : Value}

/-- A moment compares with any literal that is read as one. -/
theorem exists_ordering_dateTime {m : Calendar.Moment}
    (htoken : dateTime.objection? token = none) (hv : v.dateTime? = some m) :
    ∃ ordering, dateTime.ordering? token v = some ordering := by
  obtain ⟨literal, hliteral⟩ := exists_moment htoken
  refine ⟨m.order literal, ?_⟩
  rw [ordering?, hliteral, hv]
  rfl

/-- A declared variant compares with a literal that names one. -/
theorem exists_ordering_enum {variants : List String} {name variant : String}
    (horder : (enum variants).isOrderable = true)
    (htoken : (enum variants).objection? token = none)
    (hv : v.variant? = some name) (hmem : variant ∈ variants)
    (hsame : Text.sameIgnoringAsciiCase variant name = true) :
    ∃ ordering, (enum variants).ordering? token v = some ordering := by
  obtain ⟨position, hposition⟩ := exists_position horder htoken
  obtain ⟨i, hi⟩ := Option.isSome_iff_exists.mp
    (isSome_variantPosition?_iff.mpr ⟨variant, hmem, hsame⟩)
  refine ⟨compare i position, ?_⟩
  rw [ordering?, hposition, hv, Option.bind_some, Option.bind_some, hi]
  rfl

end Ordered

/-- A value compares with a token that denotes one of the kind if it has an
ordering. -/
theorem comparable_iff {kind : LeafKind} {token : String}
    (horder : kind.isOrderable = true) (htoken : kind.objection? token = none)
    (v : Value) :
    Comparable token kind v ↔ (kind.ordering? token v).isSome = true := by
  rw [Option.isSome_iff_exists]
  constructor
  · intro h
    cases h with
    | @number kind v n actual ordering hkind hread hv hcompare =>
        have hordering : ((Number.read? token.toList).bind fun n =>
            v.number?.bind fun actual => actual.compare? n)
              = some ordering := by
          rw [hread, hv]
          exact hcompare
        cases kind with
        | int | uint | float => exact ⟨ordering, hordering⟩
        | bool | enum _ | text | dateTime | other => cases hkind
    | moment m => exact exists_ordering_dateTime htoken rfl
    | momentText h => exact exists_ordering_dateTime htoken h
    | variant hmem h => exact exists_ordering_enum horder htoken rfl hmem h
    | variantText hmem h => exact exists_ordering_enum horder htoken rfl hmem h
  · rintro ⟨ordering, h⟩
    cases kind with
    | bool | text | other => cases horder
    | int | uint | float =>
        obtain ⟨n, hread, h⟩ := Option.bind_eq_some_iff.mp h
        obtain ⟨actual, hv, h⟩ := Option.bind_eq_some_iff.mp h
        exact .number rfl hread hv h
    | dateTime =>
        obtain ⟨m, hread, h⟩ := Option.bind_eq_some_iff.mp h
        obtain ⟨actual, hv, -⟩ := Option.map_eq_some_iff.mp h
        cases v with
        | dateTime m => exact .moment m
        | text s => exact .momentText hv
        | null | bool _ | int _ | uint _ | float _ | variant _ | other _ =>
            cases hv
    | enum variants =>
        obtain ⟨position, hposition, h⟩ := Option.bind_eq_some_iff.mp h
        obtain ⟨actual, hactual, -⟩ := Option.map_eq_some_iff.mp h
        obtain ⟨name, hname, hi⟩ := Option.bind_eq_some_iff.mp hactual
        obtain ⟨variant, hmem, hsame⟩ :=
          isSome_variantPosition?_iff.mp
            (Option.isSome_iff_exists.mpr ⟨actual, hi⟩)
        cases v with
        | variant _ =>
            cases hname
            exact .variant hmem hsame
        | text _ =>
            cases hname
            exact .variantText hmem hsame
        | null | bool _ | int _ | uint _ | float _ | dateTime _ | other _ =>
            cases hname

end LeafKind

-- ================================================================= tests

namespace Test

/-- Equality of numbers is a comparison that finds them equal. -/
theorem accepts_numberEquals (n : Number) (v : Value) :
    (numberEquals n).accepts v
      = (v.number?.bind fun actual => actual.compare? n).any (· == .eq) := by
  rw [accepts]
  cases v.number? with
  | none => rfl
  | some actual =>
      rw [Option.any_some, Option.bind_some, Number.same]
      cases actual.compare? n <;> rfl

/-- Equality of moments is a comparison that finds them equal. -/
theorem accepts_dateTimeEquals (m : Calendar.Moment) (v : Value) :
    (dateTimeEquals m).accepts v
      = (v.dateTime?.map fun actual => actual.order m).any (· == .eq) := by
  rw [accepts]
  cases v.dateTime? with
  | none => rfl
  | some actual =>
      rw [Option.map_some, Option.any_some, Bool.eq_iff_iff, beq_iff_eq,
        beq_iff_eq, Option.some.injEq, Calendar.Moment.order_eq_iff]

/-- Equality of variants is a comparison of first positions that finds them
equal. -/
theorem accepts_variantEquals {variants : List String} {name : String}
    {position : Nat} (h : variantPosition? variants name = some position)
    (v : Value) :
    (variantEquals name).accepts v
      = ((v.variant?.bind (variantPosition? variants)).map fun actual =>
          compare actual position).any (· == .eq) := by
  rw [accepts]
  cases v.variant? with
  | none => rfl
  | some actual =>
      rw [Option.any_some, Option.bind_some, Bool.eq_iff_iff,
        ← variantPosition?_eq_iff h]
      cases variantPosition? variants actual with
      | none => exact iff_of_false nofun nofun
      | some i =>
          rw [Option.map_some, Option.any_some, beq_iff_eq, Nat.compare_eq_eq,
            Option.some.injEq]

end Test

namespace Comparison

/-- The operator chooses between the test of equality and those of the
bounds. If each asks for its own ordering, so does the one that is
chosen. -/
theorem accepts_elim_bound? {operator : Operator} {equals : Test}
    {within : Bound → Test} {v : Value} {ordering? : Option Ordering}
    (hoperator : operator.isTextOnly = false)
    (hequals : equals.accepts v = ordering?.any (· == .eq))
    (hwithin : ∀ bound,
      (within bound).accepts v = ordering?.any bound.admits) :
    ((bound? operator).elim equals within).accepts v
      = ordering?.any operator.admits := by
  rcases bound?_or_equal hoperator with
    ⟨bound, hbound, hadmits⟩ | ⟨hbound, hadmits⟩
  · rw [hbound, hadmits]
    exact hwithin bound
  · rw [hbound, hadmits]
    exact hequals

/-- A test of a kind with an order asks for an ordering. -/
theorem accepts_of_literalTest {c : Comparison} {kind : LeafKind}
    {token : String} {test : Test} (horder : kind.isOrderable = true)
    (hoperator : c.operator.isTextOnly = false)
    (h : c.literalTest kind token = .ok test) (v : Value) :
    test.accepts v = (kind.ordering? token v).any c.operator.admits := by
  unfold literalTest at h
  dsimp only at h
  rw [hoperator, Bool.false_and, if_neg Bool.false_ne_true] at h
  cases kind with
  | bool | text | other => cases horder
  | int | uint | float =>
      dsimp only at h
      cases hread : Number.read? token.toList with
      | none => rw [hread] at h; cases h
      | some n =>
          have htest : test = (bound? c.operator).elim (.numberEquals n)
              (.numberWithin · n) := by
            rw [hread] at h
            cases hbound : bound? c.operator <;> rw [hbound] at h <;>
              cases h <;> rfl
          rw [htest, LeafKind.ordering?, hread, Option.bind_some]
          exact accepts_elim_bound? hoperator
            (Test.accepts_numberEquals n v) fun bound => rfl
  | dateTime =>
      dsimp only at h
      cases hread : Calendar.Moment.read? token.toList with
      | none => rw [hread] at h; cases h
      | some m =>
          have htest : test
              = (bound? c.operator).elim (.dateTimeEquals m)
                (.dateTimeWithin · m) := by
            rw [hread] at h
            cases hbound : bound? c.operator <;> rw [hbound] at h <;>
              cases h <;> rfl
          rw [htest, LeafKind.ordering?, hread, Option.bind_some]
          refine accepts_elim_bound? hoperator
            (Test.accepts_dateTimeEquals m v) fun bound => ?_
          rw [Test.accepts, Option.any_map]
  | enum variants =>
      dsimp only at h
      cases hposition : variantPosition? variants token with
      | none =>
          -- variants are declared, or the kind would have no order
          have hdeclared : (!variants.isEmpty) = true := horder
          rw [hposition] at h
          dsimp only at h
          rw [if_pos hdeclared] at h
          cases h
      | some position =>
          have htest : test = (bound? c.operator).elim (.variantEquals token)
              (.variantWithin · position variants) := by
            rw [hposition] at h
            cases hbound : bound? c.operator <;> rw [hbound] at h <;>
              cases h <;> rfl
          rw [htest, LeafKind.ordering?, hposition, Option.bind_some]
          refine accepts_elim_bound? hoperator
            (Test.accepts_variantEquals hposition v) fun bound => ?_
          rw [Test.accepts, Option.any_map]

theorem isText_of_isOrderable {kind : LeafKind} (h : kind.isOrderable = true) :
    kind.isText = false := by
  cases kind with
  | text => cases h
  | bool | int | uint | float | enum _ | dateTime | other => rfl

variable {schema : Schema} {path : Path} {kind : LeafKind} {token : String}
  {nullable : Bool}

/-- A token that can be compared by equality is one of the kind. -/
theorem objection?_of_test (horder : kind.isOrderable = true)
    (hword : Literal.isNullKeyword token = false) {test : Test}
    (h : (ofToken path kind .equal token).test kind nullable = .ok test) :
    kind.objection? token = none := by
  have hadmitted := failure?_test kind nullable path .equal token
  rw [h, Formula.failure?_ok] at hadmitted
  split at hadmitted
  · next hadmits =>
    rw [LeafKind.admits, hword, if_neg Bool.false_ne_true,
      LeafKind.admitsLiteral, isText_of_isOrderable horder, Bool.false_or,
      Bool.and_eq_true] at hadmits
    exact Option.isNone_iff_eq_none.mp hadmits.2
  · cases hadmitted

/-- With any operator that is not for texts, a literal of the kind makes a
test, and the test asks for an ordering. -/
theorem exists_literalTest {c : Comparison}
    (horder : kind.isOrderable = true) (htoken : kind.objection? token = none)
    (hoperator : c.operator.isTextOnly = false) :
    ∃ test, c.literalTest kind token = .ok test
      ∧ ∀ v,
        test.accepts v = (kind.ordering? token v).any c.operator.admits := by
  have hadmits : kind.admitsLiteral c.operator token = true := by
    rw [LeafKind.admitsLiteral, isText_of_isOrderable horder, hoperator,
      horder, htoken, Bool.or_true]
    rfl
  have hfailure := failure?_literalTest c kind token
  rw [if_pos hadmits, Formula.failure?_eq_none_iff] at hfailure
  obtain ⟨test, htest⟩ := hfailure
  exact ⟨test, htest, accepts_of_literalTest horder hoperator htest⟩

/-- So does a token of the kind, unless it is the word for null. -/
theorem exists_test (horder : kind.isOrderable = true)
    (hword : Literal.isNullKeyword token = false)
    (htoken : kind.objection? token = none) {operator : Operator}
    (hoperator : operator.isTextOnly = false) :
    ∃ test, (ofToken path kind operator token).test kind nullable = .ok test
      ∧ ∀ v,
        test.accepts v = (kind.ordering? token v).any operator.admits := by
  have hstays : (ofToken path kind operator token).operator = operator :=
    operatorOf_eq operator (Or.inr (isText_of_isOrderable horder))
  have hliteral : (ofToken path kind operator token).literal.raw?
      = some token := by
    rw [ofToken, raw?_literalOf, hword, if_neg Bool.false_ne_true]
  rw [← hstays] at hoperator
  obtain ⟨test, htest, haccepts⟩ := exists_literalTest horder htoken hoperator
  rw [hstays] at haccepts
  refine ⟨test, ?_, haccepts⟩
  rw [Comparison.test, hliteral]
  exact htest

-- =========================================================== comparisons

variable {r : Resolution}

theorem Typed.compile_alone {c : Comparison} {test : Test}
    (h : c.Typed schema r kind test) :
    c.alone.compile schema
      = .ok (.restricted
        (.atom ⟨r.steps c.path, test, c.operator == .notEqual⟩) c.render) := by
  rw [Comparison.compile_alone, compile_eq_ok_iff.mpr ⟨r, kind, test, h, rfl⟩]
  rfl

/-- The path of a comparison of a token, resolved to a kind with an order,
compiles under any such operator, and what it then asks of a single value
is an ordering. -/
theorem exists_predicate (hresolve : schema.resolve? path.names = some r)
    (hscalar : r.terminal = .leaf kind) (horder : kind.isOrderable = true)
    (hword : Literal.isNullKeyword token = false)
    (htoken : kind.objection? token = none)
    {operator : Operator} (hoperator : operator.isTextOnly = false)
    (hpositive : operator ≠ .notEqual) :
    ∃ p, (ofToken path kind operator token).alone.compile schema = .ok p
      ∧ ∀ record v, schema.selected path record = [v] →
        p.accepts record = (kind.ordering? token v).any operator.admits := by
  obtain ⟨test, htest, hadmits⟩ : ∃ test,
      (ofToken path kind operator token).test kind r.nullable = .ok test
      ∧ ∀ v,
        test.accepts v = (kind.ordering? token v).any operator.admits :=
    exists_test horder hword htoken hoperator
  have htyped : (ofToken path kind operator token).Typed schema r kind test :=
    ⟨hresolve, hscalar, htest⟩
  have hstays : ((ofToken path kind operator token).operator == .notEqual)
      = false := by
    have hkept : (ofToken path kind operator token).operator = operator :=
      operatorOf_eq operator (Or.inr (isText_of_isOrderable horder))
    rw [hkept, beq_eq_false_iff_ne]
    exact hpositive
  refine ⟨_, htyped.compile_alone, fun record v hselected => ?_⟩
  have hone : schema.selected (ofToken path kind operator token).path record
      = [v] := hselected
  rw [Predicate.accepts, Formula.holds, htyped.accepts_check, hone, hstays,
    Bool.bne_false, List.any_cons, List.any_nil, Bool.or_false, hadmits]

/-- Of variants, the position is what is compared. -/
theorem any_ordering?_enum {variants : List String} {v : Value} :
    ((LeafKind.enum variants).ordering? token v).any Operator.atMost.admits
      = true
      ↔ ∃ name i j, v.variant? = some name ∧ FirstOfName variants name i
        ∧ FirstOfName variants token j ∧ i ≤ j := by
  rw [LeafKind.ordering?]
  constructor
  · intro h
    obtain ⟨ordering, hordering, hatMost⟩ := (Option.any_eq_true _ _).mp h
    obtain ⟨j, hj, hactual⟩ := Option.bind_eq_some_iff.mp hordering
    obtain ⟨i, hi, rfl⟩ := Option.map_eq_some_iff.mp hactual
    obtain ⟨name, hname, hi⟩ := Option.bind_eq_some_iff.mp hi
    exact ⟨name, i, j, hname, variantPosition?_eq_some_iff.mp hi,
      variantPosition?_eq_some_iff.mp hj, Nat.isLE_compare.mp hatMost⟩
  · rintro ⟨name, i, j, hname, hi, hj, hle⟩
    rw [variantPosition?_eq_some_iff.mpr hj, hname, Option.bind_some,
      Option.bind_some, variantPosition?_eq_some_iff.mpr hi]
    exact Nat.isLE_compare.mpr hle

/-- The bounds fit together with equality. A token that a kind with an order
can be compared with by equality can be compared with as a bound. Where the
path selects one value, that value is within both bounds if and only if it
is equal, and within one of them if and only if it compares with the token
at all. A variant is within the upper bound if the first variant of its
name is not behind the first one of the token. -/
theorem exists_bounds (hresolve : schema.resolve? path.names = some r)
    (hscalar : r.terminal = .leaf kind) (horder : kind.isOrderable = true)
    (hword : Literal.isNullKeyword token = false) {equal : Predicate}
    (h : (ofToken path kind .equal token).alone.compile schema = .ok equal) :
    ∃ atMost atLeast,
      (ofToken path kind .atMost token).alone.compile schema = .ok atMost
      ∧ (ofToken path kind .atLeast token).alone.compile schema = .ok atLeast
      ∧ ∀ record v, schema.selected path record = [v] →
        ((atMost.accepts record = true ∧ atLeast.accepts record = true)
            ↔ equal.accepts record = true)
          ∧ ((atMost.accepts record = true ∨ atLeast.accepts record = true)
            ↔ LeafKind.Comparable token kind v)
          ∧ ∀ variants, kind = .enum variants →
            (atMost.accepts record = true ↔ ∃ name i j, v.variant? = some name
              ∧ FirstOfName variants name i ∧ FirstOfName variants token j
                ∧ i ≤ j) := by
  obtain ⟨r', kind', test, htyped, -⟩ := exists_typed h
  obtain rfl : r = r' := Option.some.inj (hresolve.symm.trans htyped.resolved)
  obtain rfl : kind = kind' :=
    Terminal.leaf.inj (hscalar.symm.trans htyped.scalar)
  have htoken := objection?_of_test horder hword htyped.tested
  have hpredicate (operator : Operator)
      (hoperator : operator.isTextOnly = false)
      (hpositive : operator ≠ .notEqual) :=
    exists_predicate hresolve hscalar horder hword htoken hoperator hpositive
  obtain ⟨atMost, hatMost, hatMostAccepts⟩ := hpredicate .atMost rfl nofun
  obtain ⟨atLeast, hatLeast, hatLeastAccepts⟩ := hpredicate .atLeast rfl nofun
  obtain ⟨equal', hequal, hequalAccepts⟩ := hpredicate .equal rfl nofun
  obtain rfl := Except.ok.inj (h.symm.trans hequal)
  refine ⟨atMost, atLeast, hatMost, hatLeast, fun record v hselected => ?_⟩
  rw [hatMostAccepts record v hselected, hatLeastAccepts record v hselected,
    hequalAccepts record v hselected]
  refine ⟨admits_both_iff _, ?_, ?_⟩
  · rw [admits_either_iff, LeafKind.comparable_iff horder htoken]
  · rintro variants rfl
    exact any_ordering?_enum

/-- Of four variants with two names, the second two have no place of their
own: what is `OPEN` comes before what is `done`, in any spelling. -/
theorem exists_bounds_spellings :
    ∃ atMost atLeast,
      (ofToken ⟨[⟨"Status", []⟩]⟩ (.enum ["open", "Done", "OPEN", "done"])
        .atMost "DONE").alone.compile
          ⟨"Ticket",
            [.scalar (.enum ["open", "Done", "OPEN", "done"]) "status"]⟩
        = .ok atMost
      ∧ (ofToken ⟨[⟨"Status", []⟩]⟩ (.enum ["open", "Done", "OPEN", "done"])
        .atLeast "DONE").alone.compile
          ⟨"Ticket",
            [.scalar (.enum ["open", "Done", "OPEN", "done"]) "status"]⟩
        = .ok atLeast
      ∧ atMost.accepts (fun _ => .value (.text "OPEN")) = true
      ∧ ¬ atLeast.accepts (fun _ => .value (.text "OPEN")) = true := by
  have hequal : (ofToken ⟨[⟨"Status", []⟩]⟩
      (.enum ["open", "Done", "OPEN", "done"]) .equal "DONE").alone.compile
        ⟨"Ticket", [.scalar (.enum ["open", "Done", "OPEN", "done"]) "status"]⟩
          = .ok _ := rfl
  obtain ⟨atMost, atLeast, hatMost, hatLeast, hbounds⟩ :=
    exists_bounds rfl rfl rfl (by decide) hequal
  obtain ⟨hboth, -, hposition⟩ :=
    hbounds (fun _ => .value (.text "OPEN")) (.text "OPEN") rfl
  have hopen : atMost.accepts (fun _ => .value (.text "OPEN")) = true := by
    refine (hposition _ rfl).mpr ⟨"OPEN", 0, 1, rfl, ?_, ?_, by decide⟩
    · exact variantPosition?_eq_some_iff.mp (by decide)
    · exact variantPosition?_eq_some_iff.mp (by decide)
  refine ⟨atMost, atLeast, hatMost, hatLeast, hopen, fun hdone => ?_⟩
  exact absurd (hboth.mp ⟨hopen, hdone⟩) (by decide)

end Comparison

end RecordFilter
