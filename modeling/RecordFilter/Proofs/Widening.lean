/-
The order of numbers across their representations. Whole numbers compare as
what they are; where one side is a double, both sides are compared as
doubles, and a whole number of more than 53 binary digits is rounded for it.
Every number that compares at all has a place on the line of doubles, and
comparisons respect it: equal numbers have one place (`place_eq_of_same`),
and what is at most another has no greater place (`place_le_of_atMost`).
With a double on either side the place also decides.

# What rounding costs

Reflexivity and antisymmetry lose nothing. Transitivity goes from the first
number to the third over their places, and places decide if one of the two
is a double; if the middle one is a whole number between whole numbers,
nothing was rounded. There remains a double between two whole numbers. It
can be equal to both although they differ, and to many more between them:
`Blurred` says so, and is the whole of the exception. Both numbers are then
at least `2 ^ 53` in size, where doubles cease to hold every whole number.
-/
import RecordFilter.Proofs.Rounding

namespace RecordFilter.Number

variable {a b c : Number} {x z : Int}

/-- Whether a number compares as at most another. -/
def atMost (a b : Number) : Bool := (a.compare? b).any Ordering.isLE

/-- Two different whole numbers that a double between them cannot tell
apart. -/
structure Blurred (a b c : Number) : Prop where
  double : b.toInt? = none
  whole : ∃ x z, a.toInt? = some x ∧ c.toInt? = some z
    ∧ x ≠ z ∧ 2 ^ 53 ≤ x.natAbs ∧ 2 ^ 53 ≤ z.natAbs
  left : a.same b = true
  right : b.same c = true

-- ================================================================ places

/-- The place of a number on the line of doubles, in quanta. -/
def place (a : Number) : Int := a.toBinary64.position?.getD 0

/-- A whole number stands where the double nearest to it does. -/
theorem place_of_toInt? (h : a.toInt? = some x) :
    a.place = Binary64.place x := by
  have hposition : a.toBinary64.position? = some (Binary64.place x) := by
    cases a with
    | int n | uint n =>
        cases h
        exact Binary64.position?_ofInt _
    | float y => cases h
  rw [place, hposition, Option.getD_some]

/-- Whatever is a number has a place. -/
theorem position?_eq (h : a ≠ float .nan) :
    a.toBinary64.position? = some a.place := by
  cases a with
  | int n | uint n =>
      rw [place_of_toInt? rfl]
      exact Binary64.position?_ofInt _
  | float y =>
      cases y with
      | finite negative m => rfl
      | infinite negative => rfl
      | nan => exact absurd rfl h

-- =========================================================== comparisons

/-- Whole numbers compare exactly. -/
theorem compare?_whole (ha : a.toInt? = some x) (hb : b.toInt? = some z) :
    a.compare? b = some (compare x z) := by
  rw [compare?, ha, hb]

/-- With a double on either side, places compare. -/
theorem compare?_double (ha : a ≠ float .nan) (hb : b ≠ float .nan)
    (h : a.toInt? = none ∨ b.toInt? = none) :
    a.compare? b = some (compare a.place b.place) := by
  have hdouble :
      a.toBinary64.compare? b.toBinary64 = some (compare a.place b.place) := by
    rw [Binary64.compare?, position?_eq ha, position?_eq hb]
  rw [compare?, ← hdouble]
  rcases h with h | h
  · rw [h]
  · rw [h]
    cases a.toInt? <;> rfl

/-- Two numbers are compared as integers, or one of them is a double. -/
theorem whole_or_double (a b : Number) :
    (∃ x z, a.toInt? = some x ∧ b.toInt? = some z)
      ∨ a.toInt? = none ∨ b.toInt? = none := by
  cases ha : a.toInt? with
  | none => exact Or.inr (Or.inl rfl)
  | some x =>
      cases hb : b.toInt? with
      | none => exact Or.inr (Or.inr rfl)
      | some z => exact Or.inl ⟨x, z, rfl, rfl⟩

/-- As integers, numbers are the same if they are equal. -/
theorem same_iff_of_whole (ha : a.toInt? = some x) (hb : b.toInt? = some z) :
    a.same b = true ↔ x = z := by
  rw [same, compare?_whole ha hb, beq_iff_eq, Option.some.injEq,
    Int.compare_eq_eq]

theorem atMost_iff_of_whole (ha : a.toInt? = some x) (hb : b.toInt? = some z) :
    a.atMost b = true ↔ x ≤ z := by
  rw [atMost, compare?_whole ha hb, Option.any_some, Int.isLE_compare]

section Comparable

variable (ha : a ≠ float .nan) (hb : b ≠ float .nan) (hc : c ≠ float .nan)

include ha hb

/-- As doubles, numbers are the same if their places are. -/
theorem same_iff_of_double (h : a.toInt? = none ∨ b.toInt? = none) :
    a.same b = true ↔ a.place = b.place := by
  rw [same, compare?_double ha hb h, beq_iff_eq, Option.some.injEq,
    Int.compare_eq_eq]

theorem atMost_iff_of_double (h : a.toInt? = none ∨ b.toInt? = none) :
    a.atMost b = true ↔ a.place ≤ b.place := by
  rw [atMost, compare?_double ha hb h, Option.any_some, Int.isLE_compare]

/-- Equal numbers have one place. -/
theorem place_eq_of_same (h : a.same b = true) : a.place = b.place := by
  rcases whole_or_double a b with ⟨x, z, hx, hz⟩ | hdouble
  · rw [place_of_toInt? hx, place_of_toInt? hz, (same_iff_of_whole hx hz).mp h]
  · exact (same_iff_of_double ha hb hdouble).mp h

/-- The order of numbers is one of their places. -/
theorem place_le_of_atMost (h : a.atMost b = true) : a.place ≤ b.place := by
  rcases whole_or_double a b with ⟨x, z, hx, hz⟩ | hdouble
  · rw [place_of_toInt? hx, place_of_toInt? hz]
    exact Binary64.place_mono ((atMost_iff_of_whole hx hz).mp h)
  · exact (atMost_iff_of_double ha hb hdouble).mp h

/-- Every two numbers compare, and the other way round they compare the
other way round. -/
theorem exists_compare? :
    ∃ order, a.compare? b = some order ∧ b.compare? a = some order.swap := by
  rcases whole_or_double a b with ⟨x, z, hx, hz⟩ | hdouble
  · refine ⟨_, compare?_whole hx hz, ?_⟩
    rw [compare?_whole hz hx, Int.compare_swap]
  · refine ⟨_, compare?_double ha hb hdouble, ?_⟩
    rw [compare?_double hb ha hdouble.symm, Int.compare_swap]

-- =========================================================== transitivity

include hc

/-- A double between different whole numbers with one place blurs them. -/
theorem blurred_of_place_eq (hx : a.toInt? = some x) (hz : c.toInt? = some z)
    (hne : x ≠ z) (hdouble : b.toInt? = none) (hleft : a.place = b.place)
    (hright : b.place = c.place) :
    Blurred a b c := by
  have hplace : Binary64.place x = Binary64.place z := by
    rw [← place_of_toInt? hx, ← place_of_toInt? hz, hleft, hright]
  refine ⟨hdouble, ⟨x, z, hx, hz, hne, ?_, ?_⟩, ?_, ?_⟩
  · exact Binary64.le_natAbs_of_place_eq hplace hne
  · exact Binary64.le_natAbs_of_place_eq hplace.symm hne.symm
  · exact (same_iff_of_double ha hb (Or.inr hdouble)).mpr hleft
  · exact (same_iff_of_double hb hc (Or.inl hdouble)).mpr hright

/-- Sameness is handed on, unless a double blurs two whole numbers. -/
theorem same_trans (hleft : a.same b = true) (hright : b.same c = true) :
    a.same c = true ∨ Blurred a b c := by
  have hab := place_eq_of_same ha hb hleft
  have hbc := place_eq_of_same hb hc hright
  rcases whole_or_double a c with ⟨x, z, hx, hz⟩ | hdouble
  · rw [same_iff_of_whole hx hz]
    cases hy : b.toInt? with
    | some y =>
        have hxy := (same_iff_of_whole hx hy).mp hleft
        have hyz := (same_iff_of_whole hy hz).mp hright
        exact Or.inl (hxy.trans hyz)
    | none =>
        by_cases heq : x = z
        · exact Or.inl heq
        · exact Or.inr (blurred_of_place_eq ha hb hc hx hz heq hy hab hbc)
  · exact Or.inl ((same_iff_of_double ha hc hdouble).mpr (hab.trans hbc))

/-- The order is handed on, unless a double blurs two whole numbers. -/
theorem atMost_trans (hleft : a.atMost b = true) (hright : b.atMost c = true) :
    a.atMost c = true ∨ Blurred a b c := by
  have hab := place_le_of_atMost ha hb hleft
  have hbc := place_le_of_atMost hb hc hright
  rcases whole_or_double a c with ⟨x, z, hx, hz⟩ | hdouble
  · rw [atMost_iff_of_whole hx hz]
    cases hy : b.toInt? with
    | some y =>
        have hxy := (atMost_iff_of_whole hx hy).mp hleft
        have hyz := (atMost_iff_of_whole hy hz).mp hright
        exact Or.inl (Int.le_trans hxy hyz)
    | none =>
        by_cases hle : x ≤ z
        · exact Or.inl hle
        · -- against the order of the numbers, so that all three places are one
          have hca : c.place ≤ a.place := by
            rw [place_of_toInt? hx, place_of_toInt? hz]
            exact Binary64.place_mono (by omega)
          exact Or.inr (blurred_of_place_eq ha hb hc hx hz (by omega) hy
            (by omega) (by omega))
  · exact Or.inl
      ((atMost_iff_of_double ha hc hdouble).mpr (Int.le_trans hab hbc))

end Comparable

-- =============================================================== the laws

theorem same_refl (ha : a ≠ float .nan) : a.same a = true := by
  obtain ⟨order, horder, hswap⟩ := exists_compare? ha ha
  have heq : order = order.swap := Option.some.inj (horder.symm.trans hswap)
  rw [same, horder, beq_iff_eq, Option.some.injEq]
  cases order <;> first | rfl | cases heq

/-- What is blurred is not equal. -/
theorem Blurred.same_eq_false (h : Blurred a b c) : a.same c = false := by
  obtain ⟨x, z, hx, hz, hne, -, -⟩ := h.whole
  rw [← Bool.not_eq_true, same_iff_of_whole hx hz]
  exact hne

/-- Of two numbers that are blurred, one is less than the other. -/
theorem Blurred.atMost_iff (h : Blurred a b c) :
    a.atMost c = true ↔ ¬ c.atMost a = true := by
  obtain ⟨x, z, hx, hz, hne, -, -⟩ := h.whole
  rw [atMost_iff_of_whole hx hz, atMost_iff_of_whole hz hx]
  omega

/-- Comparison of numbers that compare at all is reflexive and the same from
both sides. Equality is transitive but for a double between two whole
numbers that it blurs, and order but for one between a greater and a
smaller number. -/
theorem order_laws (ha : a ≠ float .nan) (hb : b ≠ float .nan)
    (hc : c ≠ float .nan) :
    a.same a = true
      ∧ (∃ order, a.compare? b = some order ∧ b.compare? a = some order.swap)
      ∧ (a.same b = true → b.same c = true →
        (a.same c = true ↔ ¬ Blurred a b c))
      ∧ (a.atMost b = true → b.atMost c = true →
        (a.atMost c = true ↔ ¬ (Blurred a b c ∧ c.atMost a = true))) := by
  refine ⟨same_refl ha, exists_compare? ha hb, ?_, ?_⟩
  · intro hleft hright
    constructor
    · intro hsame hblurred
      rw [hblurred.same_eq_false] at hsame
      cases hsame
    · exact (same_trans ha hb hc hleft hright).resolve_right
  · intro hleft hright
    constructor
    · rintro hle ⟨hblurred, hge⟩
      exact hblurred.atMost_iff.mp hle hge
    · intro hnot
      rcases atMost_trans ha hb hc hleft hright with hle | hblurred
      · exact hle
      · exact hblurred.atMost_iff.mpr fun hge => hnot ⟨hblurred, hge⟩

/-- The double `2 ^ 53`, behind which doubles leave out every other whole
number. -/
def lastWhole : Binary64 :=
  .finite false ⟨2 ^ 52, 1075, by decide, by decide, by decide⟩

/-- The first whole number that is no double, and the one before it, which
is the double it is rounded to. -/
theorem order_laws_blurred :
    Blurred (int 9007199254740993) (float lastWhole)
      (uint 9007199254740992) := by
  have hdifferent :
      (int 9007199254740993).same (uint 9007199254740992) = false := by
    decide +kernel
  obtain ⟨-, -, hsame, -⟩ :=
    order_laws (a := int 9007199254740993) (b := float lastWhole)
      (c := uint 9007199254740992) nofun nofun nofun
  have hequal_iff := hsame (by decide +kernel) (by decide +kernel)
  rw [hdifferent] at hequal_iff
  exact Classical.byContradiction fun hblurred =>
    Bool.noConfusion (hequal_iff.mpr hblurred)

/-- Neither equality nor order is transitive. -/
theorem order_not_transitive :
    (int 9007199254740993).same (float lastWhole) = true
      ∧ (float lastWhole).same (int 9007199254740992) = true
      ∧ (int 9007199254740993).same (int 9007199254740992) = false
      ∧ (int 9007199254740993).atMost (float lastWhole) = true
      ∧ (float lastWhole).atMost (int 9007199254740992) = true
      ∧ (int 9007199254740993).atMost (int 9007199254740992) = false := by
  decide +kernel

end RecordFilter.Number
