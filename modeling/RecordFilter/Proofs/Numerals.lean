/-
Whole numbers that doubles do not hold. `Numeral.Denotes` says which number
a numeral stands for, digit by digit and with at most one sign, and knows
nothing of widths or zeros. Whatever the numeral, a number of the signed
range is read as that number, and one above it, up to the end of the
unsigned range, as that number: no numeral of this range is read as a
double (`Numeral.Denotes.read?_signed`, `Numeral.Denotes.read?_unsigned`).

A comparison of whole numbers is one of integers, of any two
representations. So a test made from such a numeral passes those values
that are equal to the number, at most it or at least it, with no rounding
(`Number.whole_exact`).
-/
import RecordFilter.Proofs.Bounds
import RecordFilter.Proofs.Widening

namespace RecordFilter

-- ============================================================== numerals

namespace Numeral

/-- A run of decimal digits and its number: each digit makes ten of one of
what is before it. -/
inductive Digits : List Char → Nat → Prop where
  | one {c : Char} (hc : c.isDigit = true) : Digits [c] (c.toNat - '0'.toNat)
  | more {text : List Char} {n : Nat} {c : Char} (h : Digits text n)
      (hc : c.isDigit = true) :
      Digits (text ++ [c]) (10 * n + (c.toNat - '0'.toNat))

/-- A numeral and its number. There is at most one sign, and it stands in
front. -/
inductive Denotes : List Char → Int → Prop where
  | plain {text : List Char} {n : Nat} (h : Digits text n) : Denotes text n
  | plus {text : List Char} {n : Nat} (h : Digits text n) :
      Denotes ('+' :: text) n
  | minus {text : List Char} {n : Nat} (h : Digits text n) :
      Denotes ('-' :: text) (-n)

variable {text : List Char} {n : Nat} {z : Int}

theorem Digits.ne_nil (h : Digits text n) : text ≠ [] := by
  cases h with
  | one hc => exact List.cons_ne_nil _ _
  | more h hc =>
      exact List.append_ne_nil_of_right_ne_nil _ (List.cons_ne_nil _ _)

/-- A numeral is made of digits alone. -/
theorem Digits.all_isDigit (h : Digits text n) :
    text.all Char.isDigit = true := by
  induction h with
  | one hc => rw [List.all_cons, List.all_nil, hc, Bool.and_true]
  | more h hc ih =>
      rw [List.all_append, ih, List.all_cons, List.all_nil, hc]
      rfl

/-- The relation gives the value that the reader computes. -/
theorem Digits.value_eq (h : Digits text n) : value text = n := by
  induction h with
  | one hc =>
      rw [value, Nat.ofDigitChars_cons, Nat.ofDigitChars_nil, Nat.mul_zero,
        Nat.zero_add]
  | more h hc ih =>
      rw [value] at ih ⊢
      rw [Nat.ofDigitChars_append, ih, Nat.ofDigitChars_cons,
        Nat.ofDigitChars_nil]

/-- A numeral is read as its number, zeros in front or not. -/
theorem Digits.natural?_eq (h : Digits text n) : natural? text = some n := by
  rw [natural?, if_pos ⟨h.ne_nil, h.all_isDigit⟩, h.value_eq]

/-- More digits behind a numeral go on from its value. -/
theorem Digits.append {rest : List Char} (h : Digits text n)
    (hrest : rest.all Char.isDigit = true) :
    Digits (text ++ rest) (Nat.ofDigitChars 10 rest n) := by
  induction rest generalizing text n with
  | nil => rwa [List.append_nil, Nat.ofDigitChars_nil]
  | cons c rest ih =>
      rw [List.all_cons, Bool.and_eq_true] at hrest
      rw [List.append_cons, Nat.ofDigitChars_cons]
      exact ih (h.more hrest.1) hrest.2

/-- Every run of digits has a number. -/
theorem digits_of_natural? (h : natural? text = some n) : Digits text n := by
  rw [natural?, Option.ite_none_right_eq_some, Option.some.injEq] at h
  obtain ⟨⟨hne, hall⟩, rfl⟩ := h
  obtain ⟨c, rest, rfl⟩ := List.exists_cons_of_ne_nil hne
  rw [List.all_cons, Bool.and_eq_true] at hall
  have hvalue :
      value (c :: rest) = Nat.ofDigitChars 10 rest (c.toNat - '0'.toNat) := by
    rw [value, Nat.ofDigitChars_cons, Nat.mul_zero, Nat.zero_add]
  rw [hvalue]
  exact (Digits.one hall.1).append hall.2

/-- Digits begin with one, so that no sign is among them. -/
theorem Digits.head (h : Digits text n) :
    ∃ c rest, text = c :: rest ∧ c.isDigit = true := by
  obtain ⟨c, rest, rfl⟩ := List.exists_cons_of_ne_nil h.ne_nil
  refine ⟨c, rest, rfl, ?_⟩
  have hall := h.all_isDigit
  rw [List.all_cons, Bool.and_eq_true] at hall
  exact hall.1

/-- A numeral begins with its sign or a digit. -/
theorem Denotes.head (h : Denotes text z) :
    ∃ c rest, text = c :: rest ∧ (c = '+' ∨ c = '-' ∨ c.isDigit = true) := by
  cases h with
  | plain h =>
      obtain ⟨c, rest, htext, hc⟩ := h.head
      exact ⟨c, rest, htext, Or.inr (Or.inr hc)⟩
  | plus h => exact ⟨_, _, rfl, Or.inl rfl⟩
  | minus h => exact ⟨_, _, rfl, Or.inr (Or.inl rfl)⟩

/-- A numeral with a sign, or without, is read as its number. -/
theorem Denotes.integer?_eq (h : Denotes text z) : integer? text = some z := by
  cases h with
  | plain h =>
      obtain ⟨c, rest, rfl, hc⟩ := h.head
      unfold integer?
      split
      · next heq => cases heq; exact absurd hc (by decide)
      · next heq => cases heq; exact absurd hc (by decide)
      · rw [h.natural?_eq]; rfl
  | plus h => rw [integer?, h.natural?_eq]; rfl
  | minus h => rw [integer?, h.natural?_eq]; rfl

/-- A numeral with a minus sign does not stand for a positive number. -/
theorem Denotes.nonpos (h : Denotes ('-' :: text) z) : z ≤ 0 := by
  cases h with
  | plain h =>
      obtain ⟨c, rest, htext, hc⟩ := h.head
      cases htext
      exact absurd hc (by decide)
  | minus h => omega

-- ================================================================ reading

/-- Within the signed range, the number fits a signed word. -/
theorem Denotes.int64?_eq (h : Denotes text z)
    (hlow : -9223372036854775808 ≤ z) (hhigh : z < 9223372036854775808) :
    int64? text = some (Int64.ofInt z) := by
  rw [int64?, h.integer?_eq, Option.bind_some, if_pos (by omega)]

/-- Beyond the signed range, the number fits no signed word. -/
theorem Denotes.int64?_eq_none (h : Denotes text z)
    (hhigh : 9223372036854775808 ≤ z) :
    int64? text = none := by
  rw [int64?, h.integer?_eq, Option.bind_some, if_neg (by omega)]

/-- A positive number of the unsigned range fits an unsigned word. -/
theorem Denotes.uint64?_eq (h : Denotes text z) (hlow : 0 < z)
    (hhigh : z < 18446744073709551616) :
    uint64? text = some (UInt64.ofNat z.toNat) := by
  unfold uint64?
  split
  · -- a minus sign is refused, but a positive number has none
    exact absurd h.nonpos (by omega)
  · rw [h.integer?_eq, Option.bind_some, if_pos (by omega)]

/-- The signed range is read as signed. -/
theorem Denotes.read?_signed (h : Denotes text z)
    (hlow : -9223372036854775808 ≤ z) (hhigh : z < 9223372036854775808) :
    ∃ n : Int64, n.toInt = z ∧ Number.read? text = some (.int n) := by
  refine ⟨Int64.ofInt z, Int64.toInt_ofInt_of_le hlow hhigh, ?_⟩
  rw [Number.read?, h.int64?_eq hlow hhigh]
  rfl

/-- What is beyond the signed range is read as unsigned. -/
theorem Denotes.read?_unsigned (h : Denotes text z)
    (hlow : 9223372036854775808 ≤ z) (hhigh : z < 18446744073709551616) :
    ∃ n : UInt64, (n.toNat : Int) = z
      ∧ Number.read? text = some (.uint n) := by
  refine ⟨UInt64.ofNat z.toNat, ?_, ?_⟩
  · rw [UInt64.toNat_ofNat', Nat.mod_eq_of_lt (by omega)]
    omega
  · rw [Number.read?, h.int64?_eq_none hlow, h.uint64?_eq (by omega) hhigh]
    rfl

/-- Either way the number is whole. -/
theorem Denotes.exists_whole (h : Denotes text z)
    (hlow : -9223372036854775808 ≤ z) (hhigh : z < 18446744073709551616) :
    ∃ a : Number, a.toInt? = some z ∧ Number.read? text = some a := by
  by_cases hsigned : z < 9223372036854775808
  · obtain ⟨n, rfl, hread⟩ := h.read?_signed hlow hsigned
    exact ⟨_, rfl, hread⟩
  · obtain ⟨n, rfl, hread⟩ := h.read?_unsigned (by omega) hhigh
    exact ⟨_, rfl, hread⟩

-- =============================================================== the word

/-- No digit is a letter in another case. -/
theorem toLower_of_isDigit {c : Char} (h : c.isDigit = true) :
    c.toLower = c := by
  rw [Char.isDigit, Bool.and_eq_true, decide_eq_true_eq,
    decide_eq_true_eq] at h
  refine dif_neg fun hletter => ?_
  exact absurd (UInt32.le_trans hletter.1 h.2) (by decide)

/-- A numeral is not the word for null. -/
theorem Denotes.isNullKeyword {s : String} (h : Denotes s.toList z) :
    Literal.isNullKeyword s = false := by
  rw [← Bool.not_eq_true, Literal.isNullKeyword,
    Text.sameIgnoringAsciiCase_iff]
  obtain ⟨c, rest, hs, hc⟩ := h.head
  rw [hs]
  intro hnull
  have hn : c.toLower = 'n' := (List.cons.inj hnull).1
  rcases hc with rfl | rfl | hc
  · exact absurd hn (by decide)
  · exact absurd hn (by decide)
  · rw [toLower_of_isDigit hc] at hn
    rw [hn] at hc
    exact absurd hc (by decide)

end Numeral

-- ================================================================= values

/-- Field values that are whole numbers. -/
inductive Value.Whole : Value → Int → Prop where
  | int (n : Int64) : Whole (.int n) n.toInt
  | uint (n : UInt64) : Whole (.uint n) n.toNat

/-- A whole value is a number, and is known to be whole. -/
theorem Value.Whole.exists_number {v : Value} {m : Int} (h : v.Whole m) :
    ∃ b : Number, v.number? = some b ∧ b.toInt? = some m := by
  cases h with
  | int n => exact ⟨.int n, rfl, rfl⟩
  | uint n => exact ⟨.uint n, rfl, rfl⟩

-- ================================================================== tests

variable {s : String} {z : Int}

namespace LeafKind

variable {kind : LeafKind}

theorem isOrderable_of_isNumeric (h : kind.isNumeric = true) :
    kind.isOrderable = true := by
  cases kind with
  | int | uint | float => rfl
  | bool | enum _ | text | dateTime | other => cases h

/-- A numeric kind takes any literal that is read as a number. -/
theorem objection?_of_isNumeric (h : kind.isNumeric = true) {a : Number}
    (hread : Number.read? s.toList = some a) : kind.objection? s = none := by
  cases kind with
  | int | uint | float => rw [objection?, hread]; rfl
  | bool | enum _ | text | dateTime | other => cases h

/-- A numeric kind compares a value with the number that its literal is read
as. -/
theorem ordering?_of_isNumeric (h : kind.isNumeric = true) {a : Number}
    (hread : Number.read? s.toList = some a) (v : Value) :
    kind.ordering? s v = v.number?.bind fun b => b.compare? a := by
  cases kind with
  | int | uint | float => rw [ordering?, hread]; rfl
  | bool | enum _ | text | dateTime | other => cases h

end LeafKind

/-- A literal that is read as a whole number makes a test under any operator
that is not for texts, and the test compares integers. -/
theorem Comparison.exists_whole_test {c : Comparison} {kind : LeafKind}
    {nullable : Bool} {a : Number} {operator : Operator} {asked : Int → Prop}
    (hread : Number.read? s.toList = some a) (hwhole : a.toInt? = some z)
    (hkind : kind.isNumeric = true) (hliteral : c.literal.raw? = some s)
    (hstays : c.operator = operator) (hoperator : operator.isTextOnly = false)
    (hasked : ∀ m, operator.admits (compare m z) = true ↔ asked m) :
    ∃ test, c.test kind nullable = .ok test
      ∧ ∀ v m, v.Whole m → (test.accepts v = true ↔ asked m) := by
  subst hstays
  obtain ⟨test, htest, haccepts⟩ :=
    exists_literalTest (LeafKind.isOrderable_of_isNumeric hkind)
      (LeafKind.objection?_of_isNumeric hkind hread) hoperator
  refine ⟨test, ?_, fun v m hv => ?_⟩
  · rw [Comparison.test, hliteral]
    exact htest
  · obtain ⟨b, hb, hbm⟩ := hv.exists_number
    rw [haccepts, LeafKind.ordering?_of_isNumeric hkind hread, hb,
      Option.bind_some, Number.compare?_whole hbm hwhole, Option.any_some,
      hasked]

/-- Whole numbers are exact. A numeral for a number of the signed or the
unsigned range, however it is written, is read as that number, signed if
that is possible. It is no word for null, and the tests made from it for
numeric kinds compare a whole number with it as integers are compared. -/
theorem Number.whole_exact (hs : Numeral.Denotes s.toList z)
    (hlow : -(2 ^ 63 : Int) ≤ z) (hhigh : z < 2 ^ 64) :
    (z < 2 ^ 63 → ∃ n : Int64, n.toInt = z
        ∧ Number.read? s.toList = some (.int n))
      ∧ ((2 ^ 63 : Int) ≤ z → ∃ n : UInt64, (n.toNat : Int) = z
        ∧ Number.read? s.toList = some (.uint n))
      ∧ (∀ kind : LeafKind, (Comparison.literalOf kind s).raw? = some s)
      ∧ ∀ (c : Comparison) (kind : LeafKind) (nullable : Bool),
        kind.isNumeric = true → c.literal.raw? = some s →
          (c.operator = .equal → ∃ test, c.test kind nullable = .ok test
            ∧ ∀ v m, v.Whole m → (test.accepts v = true ↔ m = z))
          ∧ (c.operator = .atMost → ∃ test, c.test kind nullable = .ok test
            ∧ ∀ v m, v.Whole m → (test.accepts v = true ↔ m ≤ z))
          ∧ (c.operator = .atLeast → ∃ test, c.test kind nullable = .ok test
            ∧ ∀ v m, v.Whole m → (test.accepts v = true ↔ m ≥ z)) := by
  refine ⟨hs.read?_signed hlow,
    fun hsigned => hs.read?_unsigned hsigned hhigh, ?_, ?_⟩
  · intro kind
    rw [Comparison.raw?_literalOf, hs.isNullKeyword, if_neg Bool.false_ne_true]
  · intro c kind nullable hkind hliteral
    obtain ⟨a, hwhole, hread⟩ := hs.exists_whole hlow hhigh
    refine ⟨fun hequal => ?_, fun hatMost => ?_, fun hatLeast => ?_⟩
    · exact Comparison.exists_whole_test hread hwhole hkind hliteral hequal
        rfl fun m => beq_iff_eq.trans Int.compare_eq_eq
    · exact Comparison.exists_whole_test hread hwhole hkind hliteral hatMost
        rfl fun m => Int.isLE_compare
    · exact Comparison.exists_whole_test hread hwhole hkind hliteral hatLeast
        rfl fun m => Int.isGE_compare

/-- The greatest number of all, written with a sign and zeros in front:
minus one is at most this number and not equal to it. -/
theorem Number.whole_exact_greatest :
    (∃ n : UInt64, (n.toNat : Int) = 18446744073709551615
        ∧ Number.read? "+0018446744073709551615".toList = some (.uint n))
      ∧ (∃ test,
        Comparison.test ⟨⟨[]⟩, .atMost, .bare "+0018446744073709551615", .int⟩
          .int false = .ok test
        ∧ test.accepts (.int (-1)) = true)
      ∧ ∃ test,
        Comparison.test ⟨⟨[]⟩, .equal, .bare "+0018446744073709551615", .int⟩
          .int false = .ok test
        ∧ ¬ test.accepts (.int (-1)) = true := by
  have hdenotes :
      Numeral.Denotes "+0018446744073709551615".toList 18446744073709551615 :=
    .plus (Numeral.digits_of_natural? (n := 18446744073709551615) (by decide))
  obtain ⟨-, hread, -, htests⟩ := whole_exact hdenotes (by decide) (by decide)
  refine ⟨hread (by decide), ?_, ?_⟩
  · obtain ⟨-, hatMost, -⟩ :=
      htests ⟨⟨[]⟩, .atMost, .bare "+0018446744073709551615", .int⟩ .int false
        rfl rfl
    obtain ⟨test, htest, haccepts⟩ := hatMost rfl
    exact ⟨test, htest, (haccepts _ _ (.int (-1))).mpr (by decide)⟩
  · obtain ⟨hequal, -, -⟩ :=
      htests ⟨⟨[]⟩, .equal, .bare "+0018446744073709551615", .int⟩ .int false
        rfl rfl
    obtain ⟨test, htest, haccepts⟩ := hequal rfl
    exact ⟨test, htest, fun h => absurd ((haccepts _ _ (.int (-1))).mp h)
      (by decide)⟩

end RecordFilter
