/-
Pieces of a sequence between separators. Cutting at all separators never
drops a piece: a sequence with `n` of them has `n + 1` pieces, empty ones
included. So pieces that hold no separator are what is cut again from the
sequence they are put together to, and no piece that was cut holds one.
-/
namespace RecordFilter.Text

variable {α : Type}

-- ========================================================== all separators

/-- What is put together with separators has the pieces of all its parts. -/
theorem splitOnP_intercalate_eq_flatMap {isSeparator : α → Bool}
    {separator : α} (hseparator : isSeparator separator = true)
    {parts : List (List α)} (hnonempty : parts ≠ []) :
    ([separator].intercalate parts).splitOnP isSeparator
      = parts.flatMap fun part => part.splitOnP isSeparator := by
  induction parts with
  | nil => exact absurd rfl hnonempty
  | cons part others ih =>
      cases others with
      | nil => rw [List.intercalate_singleton, List.flatMap_singleton]
      | cons next others =>
          rw [List.flatMap_cons, List.intercalate_cons_cons, List.append_assoc,
            List.singleton_append, List.splitOnP_append_cons _ _ hseparator,
            ih (List.cons_ne_nil _ _)]

/-- Pieces without separators are what is cut again from the sequence they
are put together to. -/
theorem splitOnP_intercalate {isSeparator : α → Bool} {separator : α}
    (hseparator : isSeparator separator = true) {pieces : List (List α)}
    (hnonempty : pieces ≠ [])
    (hpieces : ∀ piece ∈ pieces, ∀ a ∈ piece, isSeparator a = false) :
    ([separator].intercalate pieces).splitOnP isSeparator = pieces := by
  rw [splitOnP_intercalate_eq_flatMap hseparator hnonempty]
  clear hnonempty
  induction pieces with
  | nil => rfl
  | cons piece others ih =>
      rw [List.forall_mem_cons] at hpieces
      rw [List.flatMap_cons, List.splitOnP_eq_singleton hpieces.1,
        ih hpieces.2, List.singleton_append]

/-- No piece holds the separator. -/
theorem not_mem_of_mem_splitOn [BEq α] [LawfulBEq α] {separator : α}
    {s piece : List α} (hpiece : piece ∈ s.splitOn separator) :
    separator ∉ piece := by
  induction s generalizing piece with
  | nil =>
      rw [List.splitOn_nil, List.mem_singleton] at hpiece
      subst hpiece
      exact List.not_mem_nil
  | cons a rest ih =>
      rw [List.splitOn_cons_eq_if_modifyHead] at hpiece
      split at hpiece
      · rcases List.mem_cons.mp hpiece with rfl | hpiece
        · exact List.not_mem_nil
        · exact ih hpiece
      · next ha =>
        obtain ⟨first, others, hrest⟩ :=
          List.exists_cons_of_ne_nil (List.splitOn_ne_nil separator rest)
        rw [hrest, List.modifyHead_cons, List.mem_cons] at hpiece
        rw [hrest] at ih
        rcases hpiece with rfl | hpiece
        · rw [List.mem_cons, not_or]
          exact ⟨fun heq => ha (beq_iff_eq.mpr heq.symm),
            ih (List.mem_cons_self ..)⟩
        · exact ih (List.mem_cons_of_mem _ hpiece)

-- ===================================================== the first separator

/-- What stands before the first separator, and what stands after it, if
there is one. -/
def splitFirst (isSeparator : α → Bool) : List α → List α × Option (List α)
  | [] => ([], none)
  | a :: rest =>
    if isSeparator a then ([], some rest)
    else
      let (before, after) := splitFirst isSeparator rest
      (a :: before, after)

theorem splitFirst_append_separator {isSeparator : α → Bool} {before : List α}
    (hbefore : ∀ a ∈ before, isSeparator a = false) {separator : α}
    (hseparator : isSeparator separator = true) (after : List α) :
    splitFirst isSeparator (before ++ separator :: after)
      = (before, some after) := by
  induction before with
  | nil => rw [List.nil_append, splitFirst, if_pos hseparator]
  | cons a before ih =>
      rw [List.forall_mem_cons] at hbefore
      rw [List.cons_append, splitFirst, if_neg (by simp [hbefore.1]),
        ih hbefore.2]

end RecordFilter.Text
