/-
Rounding whole numbers to doubles. A double has a place on the line, in
quanta, and so has the double that a whole number is rounded to
(`Binary64.place`). Two facts about these places are all that comparisons
need: they ascend with the number, and up to `2 ^ 53` they are exact.

# Order

Rounding keeps order because the significand is rounded at a last place
that ascends with the quotient. Where two quotients have the same last
place, rounding to a whole number decides (`roundHalfEven_mono`); where the
greater one has a later last place, a power of two stands between the two
results (`rounded_le`, `le_rounded`). Beyond the largest double, what is
rounded stands where infinity does, so that nothing has to be assumed of
the size of a number (`quanta_ofQuanta?`).

# Exactness

A quotient without remainder at its last place is its own rounding. Two
numbers that are rounded to one double are therefore the same, unless both
are beyond what a significand holds (`le_natAbs_of_place_eq`).
-/
import RecordFilter.Number

namespace RecordFilter

variable {digits den num num' : Nat}

-- ============================================================= quotients

/-- Rounding goes up by less than one. -/
theorem roundHalfEven_le (num den : Nat) :
    roundHalfEven num den ≤ num / den + 1 := by
  unfold roundHalfEven
  dsimp only
  split <;> omega

/-- Rounding to a whole number keeps order: where the quotients are the same,
so do the remainders. -/
theorem roundHalfEven_mono (h : num ≤ num') (den : Nat) :
    roundHalfEven num den ≤ roundHalfEven num' den := by
  have hquotient : num / den ≤ num' / den := Nat.div_le_div_right h
  rcases Nat.lt_or_eq_of_le hquotient with hlt | heq
  · calc roundHalfEven num den
        ≤ num / den + 1 := roundHalfEven_le num den
      _ ≤ num' / den := hlt
      _ ≤ roundHalfEven num' den := le_roundHalfEven num' den
  · -- the quotients are one, so that the remainders decide
    have hremainder : num % den ≤ num' % den := by
      have hnum := Nat.div_add_mod num den
      have hnum' := Nat.div_add_mod num' den
      rw [heq] at hnum
      omega
    unfold roundHalfEven
    dsimp only
    rw [heq]
    split <;> split <;> omega

/-- Without a remainder, nothing is rounded. -/
theorem roundHalfEven_of_dvd (hden : 0 < den) (h : den ∣ num) :
    roundHalfEven num den * den = num := by
  have hremainder : num % den = 0 := Nat.mod_eq_zero_of_dvd h
  have hquotient : roundHalfEven num den = num / den := by
    unfold roundHalfEven
    dsimp only
    rw [if_pos (by omega)]
  rw [hquotient, Nat.div_mul_cancel h]

-- ========================================================= the last place

/-- The exponent of the last binary digit that rounding keeps. -/
def lastPlace (digits num den : Nat) : Nat := (num / den).log2 + 1 - digits

/-- The number that a quotient is rounded to. -/
def rounded (digits num den : Nat) : Nat :=
  (roundToDigits digits num den).1 * 2 ^ (roundToDigits digits num den).2

/-- The greater a number, the later its last place. -/
theorem lastPlace_mono (h : num ≤ num') (digits den : Nat) :
    lastPlace digits num den ≤ lastPlace digits num' den := by
  have hquotient : num / den ≤ num' / den := Nat.div_le_div_right h
  have hlog : (num / den).log2 ≤ (num' / den).log2 := by
    by_cases hzero : num / den = 0
    · rw [hzero]
      exact Nat.zero_le _
    · have hpositive : num' / den ≠ 0 :=
        Nat.ne_of_gt (Nat.lt_of_lt_of_le (Nat.pos_of_ne_zero hzero) hquotient)
      rw [Nat.le_log2 hpositive]
      exact Nat.le_trans (Nat.log2_self_le hzero) hquotient
  unfold lastPlace
  omega

/-- At its last place, a quotient has no more digits than are kept. -/
theorem div_lastPlace_lt (digits num den : Nat) :
    num / (den * 2 ^ lastPlace digits num den) < 2 ^ digits := by
  rw [← Nat.div_div_eq_div_mul, Nat.div_lt_iff_lt_mul (Nat.two_pow_pos _),
    ← Nat.pow_add]
  have hlog : num / den < 2 ^ ((num / den).log2 + 1) := Nat.lt_log2_self
  refine Nat.lt_of_lt_of_le hlog (Nat.pow_le_pow_right (by decide) ?_)
  unfold lastPlace
  omega

/-- A significand has no more digits than are kept, or is the first number
beyond them. -/
theorem significand_le (digits num den : Nat) :
    roundHalfEven num (den * 2 ^ lastPlace digits num den) ≤ 2 ^ digits :=
  Nat.le_trans (roundHalfEven_le _ _) (div_lastPlace_lt digits num den)

/-- A significand that carries over to one more digit is the same number
with the exponent one greater. -/
theorem rounded_eq (hdigits : 0 < digits) (num den : Nat) :
    rounded digits num den
      = roundHalfEven num (den * 2 ^ lastPlace digits num den)
        * 2 ^ lastPlace digits num den := by
  have hle := significand_le digits num den
  unfold rounded roundToDigits
  unfold lastPlace at hle ⊢
  dsimp only
  split
  · rfl
  · next hcarried =>
    have hfull : roundHalfEven num (den * 2 ^ ((num / den).log2 + 1 - digits))
        = 2 ^ digits :=
      Nat.le_antisymm hle (Nat.le_of_not_lt hcarried)
    rw [hfull, ← Nat.pow_add, ← Nat.pow_add]
    congr 1
    omega

theorem lastPlace_le_exponent (digits num den : Nat) :
    lastPlace digits num den ≤ (roundToDigits digits num den).2 := by
  unfold roundToDigits lastPlace
  dsimp only
  split
  · exact Nat.le_refl _
  · exact Nat.le_succ _

/-- A rounded number is at most the power of two above its digits. -/
theorem rounded_le (hdigits : 0 < digits) (num den : Nat) :
    rounded digits num den ≤ 2 ^ (digits + lastPlace digits num den) := by
  rw [rounded_eq hdigits, Nat.pow_add]
  exact Nat.mul_le_mul_right _ (significand_le digits num den)

/-- A rounded number whose significand has all its digits is at least the
power of two of the first one. -/
theorem le_rounded (hdigits : 0 < digits) {k : Nat} (hk : digits ≤ k)
    (hle : k + 1 ≤ digits + (roundToDigits digits num den).2) :
    2 ^ k ≤ rounded digits num den := by
  have hnormal : 2 ^ (digits - 1) ≤ (roundToDigits digits num den).1 :=
    (roundToDigits_normal hdigits num den).resolve_left (by omega)
  have hsplit : k = digits - 1 + (k + 1 - digits) := by omega
  rw [hsplit, Nat.pow_add]
  exact Nat.mul_le_mul hnormal (Nat.pow_le_pow_right (by decide) (by omega))

/-- Rounding to binary digits keeps order. -/
theorem rounded_mono (hdigits : 0 < digits) (h : num ≤ num') (den : Nat) :
    rounded digits num den ≤ rounded digits num' den := by
  rcases Nat.lt_or_eq_of_le (lastPlace_mono h digits den) with hlt | heq
  · have hlast :
        lastPlace digits num' den ≤ (roundToDigits digits num' den).2 :=
      lastPlace_le_exponent digits num' den
    calc rounded digits num den
        ≤ 2 ^ (digits + lastPlace digits num den) := rounded_le hdigits num den
      _ ≤ 2 ^ (digits - 1 + lastPlace digits num' den) :=
        Nat.pow_le_pow_right (by decide) (by omega)
      _ ≤ rounded digits num' den := le_rounded hdigits (by omega) (by omega)
  · rw [rounded_eq hdigits, rounded_eq hdigits, heq]
    exact Nat.mul_le_mul_right _ (roundHalfEven_mono h _)

/-- A whole number that ends at its last place is its own rounding. -/
theorem rounded_of_dvd (hdigits : 0 < digits)
    (h : 2 ^ lastPlace digits num 1 ∣ num) :
    rounded digits num 1 = num := by
  rw [rounded_eq hdigits, Nat.one_mul,
    roundHalfEven_of_dvd (Nat.two_pow_pos _) h]

/-- A number of no more digits than are kept, or the first beyond them, ends
at its last place, wherever it stands. -/
theorem pow_lastPlace_dvd (hdigits : 0 < digits) {n : Nat}
    (h : n ≤ 2 ^ digits) (k : Nat) :
    2 ^ lastPlace digits (n * 2 ^ k) 1 ∣ n * 2 ^ k := by
  unfold lastPlace
  rw [Nat.div_one]
  rcases Nat.lt_or_eq_of_le h with hlt | rfl
  · by_cases hzero : n = 0
    · rw [hzero, Nat.zero_mul]
      exact Nat.dvd_zero _
    · have hsize : n * 2 ^ k < 2 ^ (digits + k) := by
        rw [Nat.pow_add]
        exact Nat.mul_lt_mul_of_pos_right hlt (Nat.two_pow_pos k)
      have hpositive : n * 2 ^ k ≠ 0 :=
        Nat.mul_ne_zero hzero (Nat.ne_of_gt (Nat.two_pow_pos k))
      have hlog : (n * 2 ^ k).log2 < digits + k :=
        (Nat.log2_lt hpositive).mpr hsize
      have hplace : (n * 2 ^ k).log2 + 1 - digits ≤ k := by omega
      exact Nat.dvd_trans (Nat.pow_dvd_pow 2 hplace)
        (Nat.dvd_mul_left (2 ^ k) n)
  · rw [← Nat.pow_add, Nat.log2_two_pow]
    exact Nat.pow_dvd_pow 2 (by omega)

-- ============================================================= magnitudes

/-- A product of powers of two, where their exponents add up to less. -/
theorem two_pow_mul_le (a b c : Nat) (h : a + b ≤ c) :
    2 ^ a * 2 ^ b ≤ 2 ^ c := by
  rw [← Nat.pow_add]
  exact Nat.pow_le_pow_right (by decide) h

/-- The number of quanta of a magnitude that was rounded. Without one, it
is that of infinity. -/
theorem quanta_ofQuanta? (num den : Nat) :
    (Magnitude.ofQuanta? num den).elim (2 ^ 2098) Magnitude.quanta
      = min (rounded 53 num den) (2 ^ 2098) := by
  unfold Magnitude.ofQuanta?
  split
  · next hexponent =>
    have hlt : rounded 53 num den < 2 ^ 2098 :=
      calc rounded 53 num den
          < 2 ^ 53 * 2 ^ 2045 :=
            Nat.mul_lt_mul_of_lt_of_le
              (roundToDigits_fst_lt (by decide) num den)
              (Nat.pow_le_pow_right (by decide) hexponent)
              (Nat.two_pow_pos 2045)
        _ ≤ 2 ^ 2098 := two_pow_mul_le 53 2045 2098 (by decide)
    rw [Nat.min_eq_left (Nat.le_of_lt hlt)]
    rfl
  · next hexponent =>
    have hle : 2 ^ 2098 ≤ rounded 53 num den :=
      le_rounded (k := 2098) (by decide) (by decide) (by omega)
    rw [Nat.min_eq_right hle, Option.elim_none]

-- ================================================================ doubles

namespace Binary64

/-- The place of the double nearest to a natural number. -/
def placeOfNat (n : Nat) : Nat := min (rounded 53 (n * 2 ^ 1074) 1) (2 ^ 2098)

/-- The place of the double nearest to a whole number. -/
def place (n : Int) : Int :=
  if n < 0 then -(placeOfNat n.natAbs : Int) else placeOfNat n.natAbs

/-- A magnitude stands on either side of zero, and infinity stands where the
first one beyond the largest would. -/
theorem position?_ofMagnitude? (negative : Bool) (m? : Option Magnitude) :
    (ofMagnitude? negative m?).position?
      = some (if negative
        then -((m?.elim (2 ^ 2098) Magnitude.quanta : Nat) : Int)
        else (m?.elim (2 ^ 2098) Magnitude.quanta : Nat)) := by
  cases m? with
  | none => rw [ofMagnitude?, position?, Option.elim_none]
  | some m => rfl

theorem position?_ofInt (n : Int) : (ofInt n).position? = some (place n) := by
  unfold ofInt Magnitude.ofQuotient? place placeOfNat
  rw [position?_ofMagnitude?, quanta_ofQuanta?]
  simp only [decide_eq_true_eq]

theorem placeOfNat_mono {m n : Nat} (h : m ≤ n) :
    placeOfNat m ≤ placeOfNat n := by
  have hrounded : rounded 53 (m * 2 ^ 1074) 1 ≤ rounded 53 (n * 2 ^ 1074) 1 :=
    rounded_mono (by decide) (Nat.mul_le_mul_right _ h) 1
  unfold placeOfNat
  omega

/-- Rounding whole numbers to doubles keeps their order. -/
theorem place_mono {m n : Int} (h : m ≤ n) : place m ≤ place n := by
  unfold place
  split
  · split
    · have hmagnitude : placeOfNat n.natAbs ≤ placeOfNat m.natAbs :=
        placeOfNat_mono (by omega)
      omega
    · omega
  · have hmagnitude : placeOfNat m.natAbs ≤ placeOfNat n.natAbs :=
      placeOfNat_mono (by omega)
    rw [if_neg (by omega)]
    omega

/-- Up to `2 ^ 53`, natural numbers are doubles. -/
theorem placeOfNat_of_le {n : Nat} (h : n ≤ 2 ^ 53) :
    placeOfNat n = n * 2 ^ 1074 := by
  have hle : n * 2 ^ 1074 ≤ 2 ^ 2098 :=
    calc n * 2 ^ 1074
        ≤ 2 ^ 53 * 2 ^ 1074 := Nat.mul_le_mul_right _ h
      _ ≤ 2 ^ 2098 := two_pow_mul_le 53 1074 2098 (by decide)
  unfold placeOfNat
  rw [rounded_of_dvd (by decide) (pow_lastPlace_dvd (by decide) h 1074),
    Nat.min_eq_left hle]

/-- Up to `2 ^ 53`, whole numbers are doubles. -/
theorem place_of_natAbs_le {n : Int} (h : n.natAbs ≤ 2 ^ 53) :
    place n = n * (2 ^ 1074 : Nat) := by
  unfold place
  rw [placeOfNat_of_le h, Int.natCast_mul]
  split
  · rw [← Int.neg_mul]
    congr 1
    omega
  · congr 1
    omega

/-- Up to `2 ^ 53`, no two whole numbers share a double. -/
theorem place_lt {m n : Int} (h : m < n) (hm : m.natAbs ≤ 2 ^ 53)
    (hn : n.natAbs ≤ 2 ^ 53) :
    place m < place n := by
  rw [place_of_natAbs_le hm, place_of_natAbs_le hn]
  exact Int.mul_lt_mul_of_pos_right h
    (Int.natCast_pos.mpr (Nat.two_pow_pos 1074))

/-- Two numbers with one double are both beyond what a significand
holds. -/
theorem le_natAbs_of_place_eq {m n : Int} (h : place m = place n)
    (hne : m ≠ n) :
    2 ^ 53 ≤ m.natAbs := by
  apply Nat.le_of_not_lt
  intro hlt
  -- a neighbour of `m` is exact too, and stands between the two
  rcases Int.lt_or_gt_of_ne hne with hless | hgreater
  · have hnext : place m < place (m + 1) :=
      place_lt (by omega) (by omega) (by omega)
    have hle : place (m + 1) ≤ place n := place_mono (by omega)
    omega
  · have hprevious : place (m - 1) < place m :=
      place_lt (by omega) (by omega) (by omega)
    have hle : place n ≤ place (m - 1) := place_mono (by omega)
    omega

end Binary64

end RecordFilter
