/-
What disregard of case does to the relations of texts. A text that stands
inside another does so in lower case too, as far as each character has one
lower case of its own. A capital sigma has two, and which one it gets is
decided by what stands around it. A needle is folded alone; in the text it
has neighbours.

# One exception

`lowerWithin` folds a text between others, and the lower case of a text is
that of its parts, each within the rest (`lower_append`). What a part loses
by being folded alone are its neighbours, which matters to its capital
sigmas and to nothing else: `SigmaTurns` says that one of them is final in
one place and not in the other, and `lowerWithin_eq_lower_iff` that the part
is folded as it would be alone exactly if none does so.

So equality never notices. A beginning and an end are found again if and
only if no sigma of the needle turns, and an occurrence in the middle is
found again at least where none turns.
-/
import RecordFilter.Proofs.Folding

namespace RecordFilter

namespace Text

variable {before needle after : List Char}

-- ============================================================= parts

/-- The lower case of a part of a text, given what stands before it, in
reverse, and after it. -/
def lowerWithin (reversedBefore after : List Char) : List Char → List Char
  | [] => []
  | c :: rest =>
    lowerAt reversedBefore c (rest ++ after)
      ++ lowerWithin (c :: reversedBefore) after rest

/-- The lower case of a text in two parts, each made small with the other
beside it. -/
theorem lowerFrom_append (reversedBefore front after : List Char) :
    lowerFrom reversedBefore (front ++ after)
      = lowerWithin reversedBefore after front
        ++ lowerFrom (front.reverse ++ reversedBefore) after := by
  induction front generalizing reversedBefore with
  | nil => rfl
  | cons c rest ih =>
      rw [List.cons_append, lowerFrom_cons, ih, lowerWithin, List.append_assoc,
        List.reverse_cons, List.append_assoc, List.singleton_append]

theorem lowerWithin_nil (text : List Char) :
    lowerWithin [] [] text = lower text := by
  have happend := lowerFrom_append [] text []
  rw [List.append_nil] at happend
  rw [lower, happend]
  exact (List.append_nil _).symm

/-- The lower case of a text is made of the lower cases of its parts, each
within the others. -/
theorem lower_append (before needle after : List Char) :
    lower (before ++ needle ++ after)
      = lowerWithin [] (needle ++ after) before
        ++ lowerWithin before.reverse after needle
        ++ lowerFrom (before ++ needle).reverse after := by
  rw [lower, List.append_assoc, lowerFrom_append, List.append_nil,
    lowerFrom_append, List.append_assoc, List.reverse_append]

/-- How long a lower case is does not depend on the neighbours. -/
theorem length_lowerAt (c : Char)
    (reversedBefore reversedBefore' after after' : List Char) :
    (lowerAt reversedBefore c after).length
      = (lowerAt reversedBefore' c after').length := by
  by_cases hc : c = 'Σ'
  · subst hc
    rfl
  · rw [lowerAt_of_ne hc, lowerAt_of_ne hc]

/-- What stands around a text does not change the length of its lower case. -/
theorem length_lowerWithin
    (text reversedBefore reversedBefore' after after' : List Char) :
    (lowerWithin reversedBefore after text).length
      = (lowerWithin reversedBefore' after' text).length := by
  induction text generalizing reversedBefore reversedBefore' with
  | nil => rfl
  | cons c rest ih =>
      rw [lowerWithin, lowerWithin, List.length_append, List.length_append,
        ih (c :: reversedBefore) (c :: reversedBefore'), length_lowerAt]

/-- A part has the same lower case between these neighbours and those if
each of its capital sigmas has. -/
theorem lowerWithin_eq_iff
    {reversedBefore reversedBefore' after after' text : List Char} :
    lowerWithin reversedBefore after text
      = lowerWithin reversedBefore' after' text
      ↔ ∀ front back, text = front ++ 'Σ' :: back →
        lowerSigma (front.reverse ++ reversedBefore) (back ++ after)
          = lowerSigma (front.reverse ++ reversedBefore')
            (back ++ after') := by
  induction text generalizing reversedBefore reversedBefore' with
  | nil =>
      refine iff_of_true rfl fun front back hsplit => ?_
      cases front <;> cases hsplit
  | cons c rest ih =>
      rw [lowerWithin, lowerWithin]
      constructor
      · intro h
        -- of one length either way, what `c` becomes ends in one place
        obtain ⟨hfirst, hrest⟩ := List.append_inj h (length_lowerAt c _ _ _ _)
        intro front back hsplit
        cases front with
        | nil =>
            cases hsplit
            exact List.singleton_inj.mp hfirst
        | cons d front =>
            cases hsplit
            simpa using ih.mp hrest front back rfl
      · intro h
        have hfirst : lowerAt reversedBefore c (rest ++ after)
            = lowerAt reversedBefore' c (rest ++ after') := by
          by_cases hc : c = 'Σ'
          · subst hc
            rw [lowerAt_sigma, lowerAt_sigma]
            exact congrArg (fun small => [small]) (h [] rest rfl)
          · rw [lowerAt_of_ne hc, lowerAt_of_ne hc]
        have hrest : lowerWithin (c :: reversedBefore) after rest
            = lowerWithin (c :: reversedBefore') after' rest := by
          refine ih.mpr fun front back hsplit => ?_
          subst hsplit
          simpa using h (c :: front) back rfl
        rw [hfirst, hrest]

-- ============================================================= needles

/-- A capital sigma of a needle is final where the needle stands in a text
and not where the needle is alone, or the other way round. -/
def SigmaTurns (before needle after : List Char) : Prop :=
  ∃ front back, needle = front ++ 'Σ' :: back
    ∧ lowerSigma (before ++ front).reverse (back ++ after)
      ≠ lowerSigma front.reverse back

/-- A needle is folded in its place as it is alone unless a sigma turns. -/
theorem lowerWithin_eq_lower_iff :
    lowerWithin before.reverse after needle = lower needle
      ↔ ¬ SigmaTurns before needle after := by
  rw [← lowerWithin_nil, lowerWithin_eq_iff, SigmaTurns]
  simp only [not_exists, not_and, Classical.not_not, List.append_nil,
    List.reverse_append]

/-- A prefix stays one in lower case unless a sigma of it turns. -/
theorem lower_prefix_iff :
    lower needle <+: lower (needle ++ after)
      ↔ ¬ SigmaTurns [] needle after := by
  have hsplit := lower_append [] needle after
  rw [List.nil_append, lowerWithin, List.nil_append] at hsplit
  rw [hsplit, ← lowerWithin_eq_lower_iff]
  constructor
  · intro h
    have hlength : (lower needle).length
        = (lowerWithin [].reverse after needle).length := by
      rw [← lowerWithin_nil, length_lowerWithin]
    obtain ⟨rest, hrest⟩ := h
    exact (List.append_inj_left hrest hlength).symm
  · intro h
    rw [h]
    exact List.prefix_append _ _

/-- A suffix stays one in lower case unless a sigma of it turns. -/
theorem lower_suffix_iff :
    lower needle <:+ lower (before ++ needle)
      ↔ ¬ SigmaTurns before needle [] := by
  have hsplit := lower_append before needle []
  rw [List.append_nil, List.append_nil, lowerFrom, List.append_nil] at hsplit
  rw [hsplit, ← lowerWithin_eq_lower_iff]
  constructor
  · intro h
    have hlength : (lower needle).length
        = (lowerWithin before.reverse [] needle).length := by
      rw [← lowerWithin_nil, length_lowerWithin]
    obtain ⟨front, hfront⟩ := h
    exact (List.append_inj_right' hfront hlength).symm
  · intro h
    rw [h]
    exact List.suffix_append _ _

/-- A part in the middle stays one in lower case if no sigma of it turns. -/
theorem lower_infix (h : ¬ SigmaTurns before needle after) :
    lower needle <:+: lower (before ++ needle ++ after) := by
  rw [lower_append, lowerWithin_eq_lower_iff.mpr h]
  exact List.infix_append _ _ _

end Text

-- ============================================================== values

namespace Value

open Text (SigmaTurns)

/-- What is found with regard to case is found without it, but for the
sigma. Equal texts are equal. A beginning or an end of a text is one without
regard to case unless a capital sigma of it turns; what occurs in a text
occurs in it unless a sigma turns wherever it does. -/
theorem insensitive_of_sensitive (s needle : String) :
    ((text s).textEquals? .sensitive needle = some true →
        (text s).textEquals? .insensitive needle = some true)
      ∧ ((text s).textStartsWith? .sensitive needle = some true →
        ∃ after, s.toList = needle.toList ++ after
          ∧ ((text s).textStartsWith? .insensitive needle = some true
            ↔ ¬ SigmaTurns [] needle.toList after))
      ∧ ((text s).textEndsWith? .sensitive needle = some true →
        ∃ before, s.toList = before ++ needle.toList
          ∧ ((text s).textEndsWith? .insensitive needle = some true
            ↔ ¬ SigmaTurns before needle.toList []))
      ∧ ((text s).textContains? .sensitive needle = some true →
        (text s).textContains? .insensitive needle = some true
          ∨ ∀ before after, s.toList = before ++ needle.toList ++ after →
            SigmaTurns before needle.toList after) := by
  simp only [textEquals?_text_iff, textStartsWith?_text_iff,
    textEndsWith?_text_iff, textContains?_text_iff, CaseMode.fold,
    Text.foldCase_eq_lower]
  refine ⟨?_, ?_, ?_, ?_⟩
  · intro hequal
    rw [hequal]
  · rintro ⟨after, hs⟩
    refine ⟨after, hs.symm, ?_⟩
    rw [← hs, Text.lower_prefix_iff]
  · rintro ⟨before, hs⟩
    refine ⟨before, hs.symm, ?_⟩
    rw [← hs, Text.lower_suffix_iff]
  · intro _
    by_cases hfound : Text.lower needle.toList <:+: Text.lower s.toList
    · exact .inl hfound
    · refine .inr fun before after hs =>
        Classical.byContradiction fun hstays => hfound ?_
      rw [hs]
      exact Text.lower_infix hstays

/-- A sigma at the end of a word stays final in front of a blank, but not in
front of a letter. -/
theorem insensitive_of_sensitive_word :
    ((text "ΟΔΟΣ 7").textStartsWith? .sensitive "ΟΔΟΣ" = some true
        ∧ ∃ after, "ΟΔΟΣ 7".toList = "ΟΔΟΣ".toList ++ after
          ∧ ¬ SigmaTurns [] "ΟΔΟΣ".toList after)
      ∧ (text "ΟΔΟΣΗΜΟ").textStartsWith? .sensitive "ΟΔΟΣ" = some true
        ∧ ∃ after, "ΟΔΟΣΗΜΟ".toList = "ΟΔΟΣ".toList ++ after
          ∧ SigmaTurns [] "ΟΔΟΣ".toList after := by
  have hroad :
      (text "ΟΔΟΣ 7").textStartsWith? .sensitive "ΟΔΟΣ" = some true := by
    decide +kernel
  have hsign :
      (text "ΟΔΟΣΗΜΟ").textStartsWith? .sensitive "ΟΔΟΣ" = some true := by
    decide +kernel
  obtain ⟨-, hfound, -⟩ := insensitive_of_sensitive "ΟΔΟΣ 7" "ΟΔΟΣ"
  obtain ⟨after, hafter, hstays⟩ := hfound hroad
  obtain ⟨-, hmissed, -⟩ := insensitive_of_sensitive "ΟΔΟΣΗΜΟ" "ΟΔΟΣ"
  obtain ⟨after', hafter', hturns⟩ := hmissed hsign
  refine ⟨⟨hroad, after, hafter, hstays.mp (by decide +kernel)⟩, hsign, after',
    hafter', ?_⟩
  exact Classical.byContradiction fun hnot =>
    absurd (hturns.mpr hnot) (by decide +kernel)

/-- Case-insensitive search can miss what stands in a text letter by letter. -/
theorem sensitive_not_insensitive :
    (text "ΑΣΑ").textStartsWith? .sensitive "ΑΣ" = some true
      ∧ (text "ΑΣΑ").textStartsWith? .insensitive "ΑΣ" = some false
      ∧ (text "ΑΣΑ").textContains? .sensitive "ΑΣ" = some true
      ∧ (text "ΑΣΑ").textContains? .insensitive "ΑΣ" = some false
      ∧ (text "ΑΣ").textEndsWith? .sensitive "Σ" = some true
      ∧ (text "ΑΣ").textEndsWith? .insensitive "Σ" = some false := by
  decide +kernel

end Value

end RecordFilter
