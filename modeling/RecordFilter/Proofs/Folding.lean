/-
Folding of case in whole texts. The form in which texts are compared
without regard to case is their full lower case, by whichever way it is
computed, so that the comparison is an equality of lower cases.

# The shortcut

A text of ASCII characters is folded letter by letter. It has no capital
sigma, and the lower case of its other characters does not depend on what
stands around them (`lowerFrom_of_isAscii`); so the shortcut, which each
side of a comparison takes for itself, computes what the long way does
(`foldCase_eq_lower`).

# ASCII letters in other texts

A sigma looks around, and may see ASCII letters. But it only asks which
characters have a case and which are looked through, and neither answer
changes with the case of an ASCII letter (`apply_toLower`). So it stays
final or not (`meetsCased_lowerAscii`), and a text has the lower case of
every text that differs from it in the case of ASCII letters alone
(`lower_lowerAscii`).
-/
import RecordFilter.Value.Text

namespace RecordFilter

namespace Text

variable {text : List Char}

-- =============================================== around one character

/-- The lower case of a character between others. -/
def lowerAt (reversedBefore : List Char) (c : Char) (after : List Char) :
    List Char :=
  if c = 'Σ' then [lowerSigma reversedBefore after] else lowerChar c

/-- A text is made small character by character, each with what stands around
it. -/
theorem lowerFrom_cons (reversedBefore : List Char) (c : Char)
    (after : List Char) :
    lowerFrom reversedBefore (c :: after)
      = lowerAt reversedBefore c after
        ++ lowerFrom (c :: reversedBefore) after :=
  rfl

theorem lowerAt_sigma (reversedBefore after : List Char) :
    lowerAt reversedBefore 'Σ' after = [lowerSigma reversedBefore after] :=
  if_pos rfl

/-- Only a sigma looks around. -/
theorem lowerAt_of_ne {c : Char} (h : c ≠ 'Σ')
    (reversedBefore after : List Char) :
    lowerAt reversedBefore c after = lowerChar c :=
  if_neg h

-- ======================================================= the shortcut

/-- In an ASCII text, nothing that stands around a character matters. -/
theorem lowerFrom_of_isAscii (h : isAscii text = true)
    (reversedBefore : List Char) :
    lowerFrom reversedBefore text = lowerAscii text := by
  induction text generalizing reversedBefore with
  | nil => rfl
  | cons c rest ih =>
      rw [isAscii, List.all_cons, Bool.and_eq_true, decide_eq_true_eq] at h
      have hne : c ≠ 'Σ' := by
        rintro rfl
        exact absurd h.1 (by decide)
      rw [lowerFrom_cons, lowerAt_of_ne hne, lowerChar_of_ascii h.1, ih h.2]
      rfl

/-- The form in which a text is compared is its lower case. -/
theorem foldCase_eq_lower (text : List Char) : foldCase text = lower text := by
  unfold foldCase
  split
  · next h => exact (lowerFrom_of_isAscii h []).symm
  · rfl

-- ====================================================== ASCII letters

/-- The lower case of ASCII letters changes nothing outside ASCII. -/
theorem toLower_eq_self_or_ascii (c : Char) :
    c.toLower = c ∨ c.toNat < 128 := by
  by_cases h : c.val ≥ 'A'.val ∧ c.val ≤ 'Z'.val
  · have hle : c.toNat ≤ 90 := h.2
    exact .inr (by omega)
  · exact .inl (dif_neg h)

/-- What is the same of every ASCII letter in either case is the same of a
character and its ASCII lower case. -/
theorem apply_toLower {β : Type} {f : Char → β}
    (h : ∀ n < 128, f (Char.ofNat n).toLower = f (Char.ofNat n)) (c : Char) :
    f c.toLower = f c := by
  rcases toLower_eq_self_or_ascii c with heq | hascii
  · rw [heq]
  · have hletter := h c.toNat hascii
    rwa [Char.ofNat_toNat] at hletter

/-- A small letter has a case if its capital does. -/
theorem isCased_toLower (c : Char) : isCased c.toLower = isCased c :=
  apply_toLower (by decide +kernel) c

theorem isCaseIgnorable_toLower (c : Char) :
    isCaseIgnorable c.toLower = isCaseIgnorable c :=
  apply_toLower (by decide +kernel) c

/-- The tables make both cases of an ASCII letter the same. -/
theorem lowerChar_toLower (c : Char) : lowerChar c.toLower = lowerChar c :=
  apply_toLower (by decide +kernel) c

/-- Making ASCII letters small neither makes a capital sigma nor removes
one. -/
theorem toLower_eq_sigma_iff (c : Char) : c.toLower = 'Σ' ↔ c = 'Σ' := by
  have hsigma : decide (c.toLower = 'Σ') = decide (c = 'Σ') :=
    apply_toLower (f := fun c => decide (c = 'Σ')) (by decide +kernel) c
  exact decide_eq_decide.mp hsigma

/-- Which case ASCII letters have makes no difference to where a word ends. -/
theorem meetsCased_lowerAscii (text : List Char) :
    meetsCased (lowerAscii text) = meetsCased text := by
  have hdrop : (lowerAscii text).dropWhile isCaseIgnorable
      = lowerAscii (text.dropWhile isCaseIgnorable) := by
    rw [lowerAscii, List.dropWhile_map]
    congr 2
    funext c
    exact isCaseIgnorable_toLower c
  unfold meetsCased
  rw [hdrop]
  cases text.dropWhile isCaseIgnorable with
  | nil => rfl
  | cons c rest => exact isCased_toLower c

/-- Which case ASCII letters have makes no difference to the lower case of any
character among them. -/
theorem lowerAt_lowerAscii (reversedBefore : List Char) (c : Char)
    (after : List Char) :
    lowerAt (lowerAscii reversedBefore) c.toLower (lowerAscii after)
      = lowerAt reversedBefore c after := by
  unfold lowerAt lowerSigma
  simp only [toLower_eq_sigma_iff, meetsCased_lowerAscii, lowerChar_toLower]

/-- ASCII letters can be made small first, on both sides of where one
stands. -/
theorem lowerFrom_lowerAscii (reversedBefore text : List Char) :
    lowerFrom (lowerAscii reversedBefore) (lowerAscii text)
      = lowerFrom reversedBefore text := by
  -- what stands before grows from character to character, small as well
  induction text generalizing reversedBefore with
  | nil => rfl
  | cons c rest ih =>
      have hrest := ih (c :: reversedBefore)
      rw [lowerAscii, lowerAscii, List.map_cons] at hrest
      rw [lowerAscii, lowerAscii, List.map_cons, lowerFrom_cons,
        lowerFrom_cons, ← hrest]
      exact congrArg (· ++ _) (lowerAt_lowerAscii reversedBefore c rest)

theorem lower_lowerAscii (text : List Char) :
    lower (lowerAscii text) = lower text :=
  lowerFrom_lowerAscii [] text

/-- Texts that differ in the case of ASCII letters have one lower case. -/
theorem lower_congr {a b : String} (h : sameIgnoringAsciiCase a b = true) :
    lower a.toList = lower b.toList := by
  rw [← lower_lowerAscii a.toList, sameIgnoringAsciiCase_iff.mp h,
    lower_lowerAscii]

end Text

-- =========================================================== equality

namespace Value

open Text (lower sameIgnoringAsciiCase)

/-- Equality without regard to case is equality of the full lower case, also
where the tables are skipped. -/
theorem textEquals?_insensitive (a b : String) :
    (Value.text a).textEquals? .insensitive b
      = some (lower a.toList == lower b.toList) := by
  rw [← Text.foldCase_eq_lower, ← Text.foldCase_eq_lower]
  rfl

theorem textEquals?_insensitive_iff {a b : String} :
    (Value.text a).textEquals? .insensitive b = some true
      ↔ lower a.toList = lower b.toList := by
  rw [textEquals?_text_iff, CaseMode.fold, CaseMode.fold,
    Text.foldCase_eq_lower, Text.foldCase_eq_lower]

/-- Texts are equal without regard to case if their lower cases are, which
makes it an equivalence; and the case of ASCII letters changes nothing,
whatever stands around them. -/
theorem equivalence_textEquals? :
    (∀ a b : String, (Value.text a).textEquals? .insensitive b = some true
        ↔ lower a.toList = lower b.toList)
      ∧ Equivalence (fun a b : String =>
        (Value.text a).textEquals? .insensitive b = some true)
      ∧ ∀ a a' b b' : String, sameIgnoringAsciiCase a a' = true →
        sameIgnoringAsciiCase b b' = true →
        (Value.text a').textEquals? .insensitive b'
          = (Value.text a).textEquals? .insensitive b := by
  refine ⟨fun a b => textEquals?_insensitive_iff, ⟨?_, ?_, ?_⟩, ?_⟩
  · intro a
    exact textEquals?_insensitive_iff.mpr rfl
  · intro a b hab
    rw [textEquals?_insensitive_iff] at hab ⊢
    exact hab.symm
  · intro a b c hab hbc
    rw [textEquals?_insensitive_iff] at hab hbc ⊢
    exact hab.trans hbc
  · intro a a' b b' ha hb
    rw [textEquals?_insensitive, textEquals?_insensitive, Text.lower_congr ha,
      Text.lower_congr hb]

/-- A letter in front of a sigma may be of either case, and the sign of a unit
that is not ASCII is the letter it looks like. -/
theorem equivalence_textEquals?_sigma :
    sameIgnoringAsciiCase "AΣ" "aΣ" = true
      ∧ sameIgnoringAsciiCase "Aς" "aς" = true
      ∧ (Value.text "aΣ").textEquals? .insensitive "aς" = some true
      ∧ (Value.text "\u212aelvin").textEquals? .insensitive "Kelvin"
        = some true := by
  obtain ⟨hiff, -, hascii⟩ := equivalence_textEquals?
  have htext : sameIgnoringAsciiCase "AΣ" "aΣ" = true := by decide
  have hother : sameIgnoringAsciiCase "Aς" "aς" = true := by decide
  refine ⟨htext, hother, ?_, (hiff ..).mpr (by decide +kernel)⟩
  rw [hascii "AΣ" "aΣ" "Aς" "aς" htext hother]
  exact (hiff ..).mpr (by decide +kernel)

end Value

end RecordFilter
