/-
Numbers of double precision, exactly. A finite number is a sign and a whole
number of quanta of `2 ^ -1074`, the smallest positive double; the number
of quanta is kept as `significand * 2 ^ exponent` with a significand below
`2 ^ 53`, in the one way in which only numbers too small for a full
significand have a short one. Nothing here depends on machine arithmetic:
an operation computes its exact result as a quotient of whole numbers and
rounds once, to nearest, a tie to the even neighbour.
-/
namespace RecordFilter

-- Powers are core's own, also where Mathlib offers those of a monoid.
attribute [instance(20000), default_instance 20000] instPowNat

-- ========================================================== rounding

/-- A quotient rounded to the nearest whole number, a half to the even
neighbour. -/
def roundHalfEven (num den : Nat) : Nat :=
  let quotient := num / den
  let twice := 2 * (num % den)
  if twice < den ∨ (twice = den ∧ quotient % 2 = 0) then quotient
  else quotient + 1

theorem le_roundHalfEven (num den : Nat) :
    num / den ≤ roundHalfEven num den := by
  unfold roundHalfEven
  dsimp only
  split <;> omega

/-- A quotient rounded to a number of binary digits, as a significand and
the exponent of the power of two that it is multiplied with. -/
def roundToDigits (digits num den : Nat) : Nat × Nat :=
  let exponent := (num / den).log2 + 1 - digits
  let significand := roundHalfEven num (den * 2 ^ exponent)
  if significand < 2 ^ digits then (significand, exponent)
  else (2 ^ (digits - 1), exponent + 1)

/-- A rounded significand has no more digits than asked for. -/
theorem roundToDigits_fst_lt {digits : Nat} (h : 0 < digits) (num den : Nat) :
    (roundToDigits digits num den).1 < 2 ^ digits := by
  unfold roundToDigits
  dsimp only
  split
  · assumption
  · exact Nat.pow_lt_pow_right (by decide) (by omega)

/-- A rounded significand is short of digits only at the exponent zero. -/
theorem roundToDigits_normal {digits : Nat} (hd : 0 < digits) (num den : Nat) :
    (roundToDigits digits num den).2 = 0 ∨
      2 ^ (digits - 1) ≤ (roundToDigits digits num den).1 := by
  unfold roundToDigits
  dsimp only
  split
  · rcases Nat.eq_zero_or_pos ((num / den).log2 + 1 - digits) with h | h
    · exact Or.inl h
    · refine Or.inr (Nat.le_trans ?_ (le_roundHalfEven ..))
      have hne : num / den ≠ 0 := by
        intro h0
        rw [h0] at h
        simp at h
        omega
      rw [← Nat.div_div_eq_div_mul, Nat.le_div_iff_mul_le (Nat.two_pow_pos _),
        ← Nat.pow_add]
      exact Nat.le_trans (Nat.pow_le_pow_right (by decide) (by omega))
        (Nat.log2_self_le hne)
  · exact Or.inr (Nat.le_refl _)

-- ========================================================= magnitudes

/-- A finite number of double precision without its sign, in quanta of
`2 ^ -1074`. -/
structure Magnitude where
  significand : Nat
  exponent : Nat
  significand_lt : significand < 2 ^ 53
  normal : exponent = 0 ∨ 2 ^ 52 ≤ significand
  exponent_le : exponent ≤ 2045
  deriving DecidableEq

namespace Magnitude

/-- The number of quanta. -/
def quanta (m : Magnitude) : Nat := m.significand * 2 ^ m.exponent

/-- The magnitude zero. -/
def zero : Magnitude := ⟨0, 0, by decide, Or.inl rfl, by decide⟩

/-- The magnitude nearest to a quotient of quanta; none if that is beyond
the largest one. -/
def ofQuanta? (num den : Nat) : Option Magnitude :=
  if h : (roundToDigits 53 num den).2 ≤ 2045 then
    some ⟨_, _, roundToDigits_fst_lt (by decide) num den,
      roundToDigits_normal (by decide) num den, h⟩
  else none

/-- The magnitude nearest to a quotient. -/
def ofQuotient? (num den : Nat) : Option Magnitude :=
  ofQuanta? (num * 2 ^ 1074) den

/-- The product, rounded. -/
def mul? (a b : Magnitude) : Option Magnitude :=
  ofQuanta? (a.quanta * b.quanta) (2 ^ 1074)

/-- The quotient, rounded. -/
def div? (a b : Magnitude) : Option Magnitude := ofQuotient? a.quanta b.quanta

end Magnitude

-- ============================================================ doubles

/-- A number of double precision. All that is not a number is one value. -/
inductive Binary64 where
  | finite (negative : Bool) (magnitude : Magnitude)
  | infinite (negative : Bool)
  | nan
  deriving DecidableEq

namespace Binary64

/-- The double with a sign and a rounded magnitude; a magnitude beyond the
largest one is infinite. -/
def ofMagnitude? (negative : Bool) : Option Magnitude → Binary64
  | some m => finite negative m
  | none => infinite negative

/-- The double nearest to a whole number. -/
def ofInt (n : Int) : Binary64 :=
  ofMagnitude? (n < 0) (Magnitude.ofQuotient? n.natAbs 1)

/-- Whether the value is a finite number. -/
def isFinite : Binary64 → Bool
  | finite .. => true
  | infinite _ | nan => false

/-- A number's place on the line, in quanta. An infinity stands where the
first number beyond the largest would. -/
def position? : Binary64 → Option Int
  | finite negative m =>
    some (if negative then -(m.quanta : Int) else m.quanta)
  | infinite negative =>
    some (if negative then -((2 ^ 2098 : Nat) : Int) else (2 ^ 2098 : Nat))
  | nan => none

/-- The order of two numbers, with the two zeros equal; nothing compares
with what is not a number. -/
def compare? (a b : Binary64) : Option Ordering :=
  match a.position?, b.position? with
  | some x, some y => some (compare x y)
  | _, _ => none

end Binary64

end RecordFilter
