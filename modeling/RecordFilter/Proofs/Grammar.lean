/-
The grammar of keys, and that the reader of keys recognizes exactly it. A
key is a path with an operator symbol behind it or none; a path is pieces
between dots and hyphens; and a piece is a field name with subscripts in it,
each a numeral in brackets.

# Subscripts

A piece is spelled `c₀ [d₁] c₁ … [dₘ] cₘ`, where the chunks `cᵢ` are plain:
no numeral stands in brackets in any of them, though brackets and digits may
(`Segment.Spelling`). Every piece has exactly one such spelling:

- there is one, found from the left: a character goes to the chunk in front
  of it unless it opens a subscript (`Spelling.exists_clean`);
- there is no other. What opens a subscript can be no part of a plain chunk
  in front of one, for its bracket would have to be the one that the next
  subscript opens (`eq_nil_of_append_eq_bracketed`). So two spellings of one
  text end their first chunks in the same place (`Spelling.text_injective`).

The reader is one pass over the piece, and the fact that keeps it from
taking part of a chunk for a subscript is the same one (`scan_append`).
-/
import Mathlib.Data.List.Forall2
import Mathlib.Data.List.TakeWhile
import RecordFilter.Key

namespace RecordFilter

namespace Segment

section Chunks

-- ============================================================== numerals

/-- One or more digits. -/
def IsNumeral (text : List Char) : Prop :=
  text ≠ [] ∧ ∀ c ∈ text, c.isDigit = true

/-- A numeral in brackets, which is a subscript. -/
def bracketed (numeral : List Char) : List Char := '[' :: (numeral ++ [']'])

/-- A text in which no numeral stands in brackets. -/
def Plain (text : List Char) : Prop :=
  ∀ numeral, IsNumeral numeral → ¬ bracketed numeral <:+: text

variable {numeral numeral' text rest rest' chunk chunk' : List Char}
  {behind behind' : List Char} {c : Char}

/-- The digits of a subscript end at its closing bracket. -/
theorem takeWhile_numeral (h : IsNumeral numeral) (rest : List Char) :
    (numeral ++ ']' :: rest).takeWhile Char.isDigit = numeral := by
  have hclosing : ¬ Char.isDigit ']' = true := by decide
  rw [List.takeWhile_append_of_pos h.2, List.takeWhile_cons_of_neg hclosing,
    List.append_nil]

theorem dropWhile_numeral (h : IsNumeral numeral) (rest : List Char) :
    (numeral ++ ']' :: rest).dropWhile Char.isDigit = ']' :: rest := by
  have hclosing : ¬ Char.isDigit ']' = true := by decide
  rw [List.dropWhile_append_of_pos h.2, List.dropWhile_cons_of_neg hclosing]

theorem bracketed_append (numeral rest : List Char) :
    bracketed numeral ++ rest = '[' :: (numeral ++ ']' :: rest) := by
  simp [bracketed]

/-- A numeral in brackets ends in its own place. -/
theorem bracketed_append_inj (hnumeral : IsNumeral numeral)
    (hnumeral' : IsNumeral numeral')
    (h : bracketed numeral ++ rest = bracketed numeral' ++ rest') :
    numeral = numeral' ∧ rest = rest' := by
  rw [bracketed_append, bracketed_append, List.cons.injEq] at h
  have htake := congrArg (List.takeWhile Char.isDigit) h.2
  rw [takeWhile_numeral hnumeral, takeWhile_numeral hnumeral'] at htake
  have hdrop := congrArg (List.dropWhile Char.isDigit) h.2
  rw [dropWhile_numeral hnumeral, dropWhile_numeral hnumeral',
    List.cons.injEq] at hdrop
  exact ⟨htake, hdrop.2⟩

/-- Behind an opening bracket there is a subscript if a numeral and the
closing bracket follow. -/
theorem subscript?_eq_some_iff {i : UInt64} :
    subscript? text = some (i, rest)
      ↔ ∃ numeral, IsNumeral numeral ∧ text = numeral ++ ']' :: rest
        ∧ i = subscriptOf numeral := by
  constructor
  · intro h
    have htext :
        text.takeWhile Char.isDigit ++ text.dropWhile Char.isDigit = text :=
      List.takeWhile_append_dropWhile
    unfold subscript? at h
    split at h
    · next digit digits behind hdigits hbehind =>
      cases h
      have hnumeral : IsNumeral (digit :: digits) := by
        refine ⟨List.cons_ne_nil _ _, fun c hc => ?_⟩
        rw [← hdigits] at hc
        exact List.mem_takeWhile_imp hc
      refine ⟨_, hnumeral, ?_, rfl⟩
      rw [← hdigits, ← hbehind, htext]
    · cases h
  · intro h
    obtain ⟨numeral, hnumeral, rfl, rfl⟩ := h
    obtain ⟨digit, digits, rfl⟩ := List.exists_cons_of_ne_nil hnumeral.1
    rw [subscript?, takeWhile_numeral hnumeral, dropWhile_numeral hnumeral]
    rfl

-- ========================================================== plain chunks

/-- What holds no subscript holds none in any part. -/
theorem Plain.of_infix (h : Plain text) (hchunk : chunk <:+: text) :
    Plain chunk :=
  fun numeral hnumeral hinside => h numeral hnumeral (hinside.trans hchunk)

theorem plain_nil : Plain [] := by
  intro numeral _ hinside
  have hempty : bracketed numeral = [] := List.eq_nil_of_infix_nil hinside
  cases hempty

/-- A character in front leaves a text plain unless a subscript begins with
it. -/
theorem plain_cons (htext : Plain text)
    (h : ∀ numeral, IsNumeral numeral → ¬ bracketed numeral <+: c :: text) :
    Plain (c :: text) := by
  intro numeral hnumeral hinside
  rcases List.infix_cons_iff.mp hinside with hfront | hinside
  · exact h numeral hnumeral hfront
  · exact htext numeral hnumeral hinside

/-- What may stand behind a chunk: nothing, or a subscript. -/
def Opens (behind : List Char) : Prop :=
  behind = []
    ∨ ∃ numeral rest, IsNumeral numeral ∧ behind = bracketed numeral ++ rest

theorem opens_nil : Opens [] := .inl rfl

theorem opens_bracketed (h : IsNumeral numeral) (rest : List Char) :
    Opens (bracketed numeral ++ rest) := .inr ⟨numeral, rest, h, rfl⟩

/-- A plain chunk in front of a subscript, or at the end, does not itself
begin what reads as a subscript, not even together with what is behind it. -/
theorem eq_nil_of_append_eq_bracketed (hchunk : Plain chunk)
    (hbehind : Opens behind) (hnumeral : IsNumeral numeral)
    (h : chunk ++ behind = bracketed numeral ++ rest) :
    chunk = [] := by
  rcases List.append_eq_append_iff.mp h with
    ⟨more, hbracketed, hmore⟩ | ⟨more, hbracketed, -⟩
  · -- the chunk ends within the subscript
    cases chunk with
    | nil => rfl
    | cons opening chunk =>
        exfalso
        have hinside : numeral ++ [']'] = chunk ++ more :=
          (List.cons.inj hbracketed).2
        cases more with
        | nil =>
            rw [List.append_nil] at hbracketed
            exact hchunk numeral hnumeral (hbracketed ▸ List.infix_refl _)
        | cons bracket more =>
            -- its next character is the bracket that opens the subscript
            have hbracket : bracket = '[' := by
              rcases hbehind with hnil | ⟨numeral', rest', -, hopens⟩
              · rw [hnil] at hmore
                cases hmore
              · rw [hopens] at hmore
                exact (List.cons.inj hmore).1.symm
            have hmember : bracket ∈ numeral ++ [']'] := by
              rw [hinside]
              exact List.mem_append_right _ (List.mem_cons_self ..)
            rw [hbracket, List.mem_append, List.mem_singleton] at hmember
            rcases hmember with hdigit | hclosing
            · exact absurd (hnumeral.2 _ hdigit) (by decide)
            · exact absurd hclosing (by decide)
  · exfalso
    exact hchunk numeral hnumeral
      (hbracketed ▸ (List.prefix_append _ more).isInfix)

/-- No plain chunk stands in front of the end or a subscript where there is one
already. -/
private theorem eq_nil_of_opens (hchunk : Plain chunk) (hbehind : Opens behind)
    (h : Opens (chunk ++ behind)) : chunk = [] := by
  rcases h with hnil | ⟨numeral, rest, hnumeral, hbracketed⟩
  · exact (List.append_eq_nil_iff.mp hnil).1
  · exact eq_nil_of_append_eq_bracketed hchunk hbehind hnumeral hbracketed

/-- A plain chunk in front of a subscript, or at the end, is determined by
the text. -/
theorem chunk_unique (hchunk : Plain chunk) (hchunk' : Plain chunk')
    (hbehind : Opens behind) (hbehind' : Opens behind')
    (h : chunk ++ behind = chunk' ++ behind') :
    chunk = chunk' ∧ behind = behind' := by
  rcases List.append_eq_append_iff.mp h with
    ⟨more, hlonger, hmore⟩ | ⟨more, hlonger, hmore⟩
  · subst hlonger hmore
    have hplain : Plain more :=
      hchunk'.of_infix (List.suffix_append chunk more).isInfix
    have hnil : more = [] := eq_nil_of_opens hplain hbehind' hbehind
    simp [hnil]
  · subst hlonger hmore
    have hplain : Plain more :=
      hchunk.of_infix (List.suffix_append chunk' more).isInfix
    have hnil : more = [] := eq_nil_of_opens hplain hbehind hbehind'
    simp [hnil]

end Chunks

-- ============================================================= spellings

/-- A piece taken apart: chunks with subscripts between them. -/
inductive Spelling where
  | last (chunk : List Char)
  | subscript (chunk numeral : List Char) (others : Spelling)

namespace Spelling

/-- The piece that is spelled. -/
def text : Spelling → List Char
  | last chunk => chunk
  | subscript chunk numeral others =>
      chunk ++ (bracketed numeral ++ others.text)

/-- The chunks in one. -/
def name : Spelling → List Char
  | last chunk => chunk
  | subscript chunk _ others => chunk ++ others.name

/-- The numerals of the subscripts, in order. -/
def numerals : Spelling → List (List Char)
  | last _ => []
  | subscript _ numeral others => numeral :: others.numerals

/-- Subscripts are numerals in brackets, and there are no others. -/
def Clean : Spelling → Prop
  | last chunk => Plain chunk
  | subscript chunk numeral others =>
      Plain chunk ∧ IsNumeral numeral ∧ others.Clean

/-- The spelling with one more character in front. -/
def push (c : Char) : Spelling → Spelling
  | last chunk => last (c :: chunk)
  | subscript chunk numeral others => subscript (c :: chunk) numeral others

variable {s s' : Spelling}

@[simp] theorem text_push (c : Char) (s : Spelling) :
    (s.push c).text = c :: s.text := by
  cases s <;> rfl

/-- A spelling stays clean under a character with which no subscript begins. -/
theorem Clean.push {c : Char} (hs : s.Clean)
    (h : ∀ numeral, IsNumeral numeral → ¬ bracketed numeral <+: c :: s.text) :
    (s.push c).Clean := by
  cases s with
  | last chunk => exact plain_cons hs h
  | subscript chunk numeral others =>
      refine ⟨plain_cons hs.1 ?_, hs.2⟩
      intro other hother hfront
      refine h other hother (hfront.trans ?_)
      rw [text, ← List.cons_append]
      exact List.prefix_append _ _

/-- Every text has a spelling. The induction is that of the reader. -/
theorem exists_clean (piece : List Char) :
    ∃ s : Spelling, s.Clean ∧ s.text = piece := by
  fun_induction scan piece with
  | case1 => exact ⟨last [], plain_nil, rfl⟩
  | case2 text i rest hsubscript _ name subscripts _ ih =>
      obtain ⟨s, hs, htext⟩ := ih
      obtain ⟨numeral, hnumeral, rfl, -⟩ :=
        subscript?_eq_some_iff.mp hsubscript
      refine ⟨subscript [] numeral s, ⟨plain_nil, hnumeral, hs⟩, ?_⟩
      rw [Spelling.text, htext, bracketed_append, List.nil_append]
  | case3 text hsubscript name subscripts _ ih =>
      obtain ⟨s, hs, htext⟩ := ih
      refine ⟨s.push '[', hs.push ?_, by rw [text_push, htext]⟩
      intro numeral hnumeral hfront
      obtain ⟨rest, hrest⟩ := hfront
      rw [bracketed_append, htext] at hrest
      have hopens : subscript? text = some (subscriptOf numeral, rest) :=
        subscript?_eq_some_iff.mpr
          ⟨numeral, hnumeral, (List.cons.inj hrest).2.symm, rfl⟩
      rw [hopens] at hsubscript
      cases hsubscript
  | case4 c text hbracket name subscripts _ ih =>
      obtain ⟨s, hs, htext⟩ := ih
      refine ⟨s.push c, hs.push ?_, by rw [text_push, htext]⟩
      intro numeral _ hfront
      obtain ⟨rest, hrest⟩ := hfront
      exact hbracket (List.cons.inj hrest).1.symm

/-- Spellings of one text are the same. -/
theorem text_injective (hs : s.Clean) (hs' : s'.Clean) (h : s.text = s'.text) :
    s = s' := by
  induction s generalizing s' with
  | last chunk =>
      cases s' with
      | last chunk' => exact congrArg last h
      | subscript chunk' numeral' others' =>
          exfalso
          rw [text, ← List.append_nil chunk] at h
          have hnil :=
            (chunk_unique hs hs'.1 opens_nil (opens_bracketed hs'.2.1 _) h).2
          cases hnil
  | subscript chunk numeral others ih =>
      cases s' with
      | last chunk' =>
          exfalso
          rw [text, text, ← List.append_nil chunk'] at h
          have hnil :=
            (chunk_unique hs.1 hs' (opens_bracketed hs.2.1 _) opens_nil h).2
          cases hnil
      | subscript chunk' numeral' others' =>
          obtain ⟨rfl, hbehind⟩ :=
            chunk_unique hs.1 hs'.1 (opens_bracketed hs.2.1 _)
              (opens_bracketed hs'.2.1 _) h
          obtain ⟨rfl, htext⟩ := bracketed_append_inj hs.2.1 hs'.2.1 hbehind
          rw [ih hs.2.2 hs'.2.2 htext]

/-- Every text has exactly one spelling. -/
theorem existsUnique_clean (piece : List Char) :
    ∃! s : Spelling, s.Clean ∧ s.text = piece := by
  obtain ⟨s, hs, htext⟩ := exists_clean piece
  refine ⟨s, ⟨hs, htext⟩, fun s' h => ?_⟩
  exact text_injective h.1 hs (h.2.trans htext.symm)

end Spelling

-- ============================================================ the reader

section Reader

variable {text rest chunk behind : List Char} {c : Char} {i : UInt64}

/-- Any character but an opening bracket belongs to the name. -/
theorem scan_cons_other (h : c ≠ '[') (text : List Char) :
    scan (c :: text) = (c :: (scan text).1, (scan text).2) := by
  rw [scan, if_neg h]

/-- A bracket that opens no subscript belongs to the name. -/
theorem scan_cons_none (h : subscript? text = none) :
    scan ('[' :: text) = ('[' :: (scan text).1, (scan text).2) := by
  rw [scan, if_pos rfl]
  split
  · next i rest hsome => rw [h] at hsome; cases hsome
  · rfl

/-- A subscript is lifted out. -/
theorem scan_cons_some (h : subscript? text = some (i, rest)) :
    scan ('[' :: text) = ((scan rest).1, i :: (scan rest).2) := by
  rw [scan, if_pos rfl]
  split
  · next i' rest' hsome =>
    rw [h] at hsome
    cases hsome
    rfl
  · next hnone => rw [h] at hnone; cases hnone

/-- A plain chunk is read as it is. -/
theorem scan_append (hchunk : Plain chunk) (hbehind : Opens behind) :
    scan (chunk ++ behind) = (chunk ++ (scan behind).1, (scan behind).2) := by
  induction chunk with
  | nil => rfl
  | cons c chunk ih =>
      have hrest := ih (hchunk.of_infix (List.suffix_cons c chunk).isInfix)
      by_cases hbracket : c = '['
      · subst hbracket
        have hnone : subscript? (chunk ++ behind) = none := by
          rw [Option.eq_none_iff_forall_ne_some]
          intro found hsome
          obtain ⟨i, rest⟩ := found
          obtain ⟨numeral, hnumeral, htext, -⟩ :=
            subscript?_eq_some_iff.mp hsome
          have hopening :
              ('[' :: chunk) ++ behind = bracketed numeral ++ rest := by
            rw [List.cons_append, htext, bracketed_append]
          have hnil : '[' :: chunk = [] :=
            eq_nil_of_append_eq_bracketed hchunk hbehind hnumeral hopening
          cases hnil
        rw [List.cons_append, scan_cons_none hnone, hrest]
        rfl
      · rw [List.cons_append, scan_cons_other hbracket, hrest]
        rfl

/-- The reader takes a piece apart as it is spelled. -/
theorem scan_text {s : Spelling} (h : s.Clean) :
    scan s.text = (s.name, s.numerals.map subscriptOf) := by
  induction s with
  | last chunk =>
      have hscan := scan_append h opens_nil
      have hnil : scan [] = ([], []) := by rw [scan]
      rw [List.append_nil, hnil, List.append_nil] at hscan
      exact hscan
  | subscript chunk numeral others ih =>
      obtain ⟨hchunk, hnumeral, hothers⟩ := h
      have hsome : subscript? (numeral ++ ']' :: others.text)
          = some (subscriptOf numeral, others.text) :=
        subscript?_eq_some_iff.mpr ⟨numeral, hnumeral, rfl, rfl⟩
      have hbehind : scan (bracketed numeral ++ others.text)
          = (others.name,
            subscriptOf numeral :: others.numerals.map subscriptOf) := by
        rw [bracketed_append, scan_cons_some hsome, ih hothers]
      rw [Spelling.text, scan_append hchunk (opens_bracketed hnumeral _),
        hbehind]
      rfl

/-- A text is plain if the reader finds no subscript in it. -/
theorem plain_iff : Plain text ↔ scan text = (text, []) := by
  constructor
  · intro h
    have hlast : (Spelling.last text).Clean := h
    exact scan_text hlast
  · intro h
    obtain ⟨s, hs, htext⟩ := Spelling.exists_clean text
    have hscan := scan_text hs
    rw [htext, h] at hscan
    cases s with
    | last chunk =>
        rw [← htext]
        exact hs
    | subscript chunk numeral others => cases hscan

/-- The word of a numeral is its value, or the greatest word if that is
less. -/
theorem toNat_subscriptOf (numeral : List Char) :
    (subscriptOf numeral).toNat
      = min (Numeral.value numeral) (UInt64.size - 1) := by
  have hsize : UInt64.size = 18446744073709551616 := rfl
  rw [subscriptOf, UInt64.toNat_ofNat']
  omega

end Reader

/-- What a piece denotes by its spelling: the chunks are its name, and the
numerals its subscripts, cut at the greatest word. -/
def Spelled (piece : List Char) (segment : Segment) : Prop :=
  ∃ s : Spelling, s.Clean ∧ s.text = piece ∧ segment.name.toList = s.name
    ∧ segment.subscripts.map UInt64.toNat
      = s.numerals.map fun numeral =>
        min (Numeral.value numeral) (UInt64.size - 1)

theorem map_toNat_subscriptOf (numerals : List (List Char)) :
    (numerals.map subscriptOf).map UInt64.toNat
      = numerals.map fun numeral =>
        min (Numeral.value numeral) (UInt64.size - 1) := by
  rw [List.map_map]
  exact List.map_congr_left fun numeral _ => toNat_subscriptOf numeral

/-- The reader of segments recognizes the grammar. -/
theorem spelled_iff {piece : List Char} {segment : Segment} :
    Spelled piece segment ↔ ofText piece = segment := by
  constructor
  · intro h
    obtain ⟨s, hs, htext, hname, hsubscripts⟩ := h
    rw [← map_toNat_subscriptOf] at hsubscripts
    have hinjective : Function.Injective UInt64.toNat :=
      fun _ _ h => UInt64.toNat_inj.mp h
    have hwords : segment.subscripts = s.numerals.map subscriptOf :=
      List.map_injective_iff.mpr hinjective hsubscripts
    rw [← htext, ofText, scan_text hs, ← hname, ← hwords]
    dsimp only
    rw [String.ofList_toList]
  · intro h
    obtain ⟨s, hs, htext⟩ := Spelling.exists_clean piece
    have hsegment :
        segment = ⟨String.ofList s.name, s.numerals.map subscriptOf⟩ := by
      rw [← h, ← htext, ofText, scan_text hs]
    rw [hsegment]
    exact ⟨s, hs, htext, String.toList_ofList, map_toNat_subscriptOf _⟩

/-- Pieces are spelled one by one. -/
theorem forall₂_spelled_iff {pieces : List (List Char)}
    {segments : List Segment} :
    List.Forall₂ Spelled pieces segments ↔ pieces.map ofText = segments := by
  have hspelled : Spelled = fun piece segment => ofText piece = segment := by
    funext piece segment
    exact propext spelled_iff
  rw [← List.forall₂_eq_eq_eq, List.forall₂_map_left_iff, hspelled]

end Segment

-- ================================================================ pieces

namespace Text

/-- A sequence cut at its separators. -/
inductive Cut {α : Type} (isSeparator : α → Bool) :
    List α → List (List α) → Prop where
  | last {piece : List α} (h : ∀ a ∈ piece, isSeparator a = false) :
      Cut isSeparator piece [piece]
  | cons {piece rest : List α} {separator : α} {pieces : List (List α)}
      (hpiece : ∀ a ∈ piece, isSeparator a = false)
      (hseparator : isSeparator separator = true)
      (hrest : Cut isSeparator rest pieces) :
      Cut isSeparator (piece ++ separator :: rest) (piece :: pieces)

variable {α : Type} {isSeparator : α → Bool} {s : List α}
  {pieces : List (List α)}

/-- Cutting a sequence at all of its separators leaves a cut. -/
theorem cut_splitOnP (isSeparator : α → Bool) (s : List α) :
    Cut isSeparator s (s.splitOnP isSeparator) := by
  induction s with
  | nil => exact .last (List.forall_mem_nil _)
  | cons a rest ih =>
      rw [List.splitOnP_cons_eq_if_modifyHead]
      split
      · next ha => exact .cons (List.forall_mem_nil _) ha ih
      · next ha =>
        rw [Bool.not_eq_true] at ha
        obtain ⟨first, others, hrest⟩ :=
          List.exists_cons_of_ne_nil (List.splitOnP_ne_nil isSeparator rest)
        rw [hrest] at ih ⊢
        rw [List.modifyHead_cons]
        cases ih with
        | last h => exact .last (List.forall_mem_cons.mpr ⟨ha, h⟩)
        | cons hpiece hseparator hcut =>
            exact .cons (List.forall_mem_cons.mpr ⟨ha, hpiece⟩) hseparator hcut

/-- A sequence can be cut in one way. -/
theorem cut_iff :
    Cut isSeparator s pieces ↔ s.splitOnP isSeparator = pieces := by
  constructor
  · intro h
    induction h with
    | last h => exact List.splitOnP_eq_singleton h
    | cons hpiece hseparator _ ih =>
        rw [List.splitOnP_append_cons_of_forall_mem hpiece _ hseparator, ih]
  · intro h
    rw [← h]
    exact cut_splitOnP isSeparator s

end Text

-- ================================================================== keys

namespace Key

/-- Dots and hyphens stand between the segments of a path. -/
def isSeparator (c : Char) : Bool := c == '.' || c == '-'

/-- A key's text is that of its path and an operator symbol, or that of its
path alone, which then does not end in a symbol and is for equality. -/
inductive Ending : List Char → List Char → Operator → Prop where
  | symbol (path : List Char) (operator : Operator) :
      Ending (path ++ [operator.symbol]) path operator
  | bare {path : List Char}
      (h : ∀ operator : Operator, path.getLast? ≠ some operator.symbol) :
      Ending path path .equal

/-- What a text denotes as a key. -/
def Spelled (text : List Char) (key : Key) : Prop :=
  ∃ path pieces, Ending text path key.operator
    ∧ Text.Cut isSeparator path pieces
    ∧ List.Forall₂ Segment.Spelled pieces key.path.segments

/-- A key is split into a path and an operator that the grammar allows. -/
theorem ending_splitOperator (text : List Char) :
    Ending text (splitOperator text).1 (splitOperator text).2 := by
  rw [splitOperator]
  split
  · next operator hoperator =>
    obtain ⟨c, hlast, hsymbol⟩ := Option.bind_eq_some_iff.mp hoperator
    have htext : text.dropLast ++ [operator.symbol] = text := by
      rw [Operator.symbol_of_ofSymbol? hsymbol]
      exact List.dropLast_append_getLast? c hlast
    conv => arg 1; rw [← htext]
    exact .symbol _ _
  · next hnone =>
    refine .bare fun operator hlast => ?_
    rw [hlast, Option.bind_some, Operator.ofSymbol?_symbol] at hnone
    cases hnone

/-- There is no other way to split a key. -/
theorem ending_iff {text path : List Char} {operator : Operator} :
    Ending text path operator ↔ splitOperator text = (path, operator) := by
  constructor
  · intro h
    cases h with
    | symbol => exact splitOperator_symbol path operator
    | bare h => exact splitOperator_bare h
  · intro h
    have hending := ending_splitOperator text
    rwa [h] at hending

/-- Hyphens are separators, whether or not they are made dots first. -/
theorem splitOn_dotted (text : List Char) :
    (dotted text).splitOn '.' = text.splitOnP isSeparator := by
  induction text with
  | nil => rfl
  | cons c rest ih =>
      have hdotted : dotted (c :: rest)
          = (if c = '-' then '.' else c) :: dotted rest := rfl
      rw [hdotted, List.splitOn_cons_eq_if_modifyHead,
        List.splitOnP_cons_eq_if_modifyHead, ih]
      by_cases hhyphen : c = '-'
      · subst hhyphen
        rfl
      · simp [hhyphen, isSeparator]

/-- A key is cut at dots and hyphens alike. -/
theorem ofText_dotted (text : List Char) :
    Path.ofText (dotted text)
      = ⟨(text.splitOnP isSeparator).map Segment.ofText⟩ := by
  rw [Path.ofText, splitOn_dotted]

/-- The reader of keys recognizes exactly the grammar, in which every piece
has one spelling. -/
theorem parse_grammar :
    (∀ (raw : String) (key : Key), parse raw = key ↔ Spelled raw.toList key)
      ∧ ∀ piece : List Char, ∃! s : Segment.Spelling,
        s.Clean ∧ s.text = piece := by
  refine ⟨fun raw key => ?_, Segment.Spelling.existsUnique_clean⟩
  constructor
  · intro h
    have hending := ending_splitOperator raw.toList
    have hparse : parse raw
        = ⟨Path.ofText (dotted (splitOperator raw.toList).1),
          (splitOperator raw.toList).2⟩ := rfl
    rw [← h, hparse]
    refine ⟨_, _, hending, Text.cut_splitOnP _ _, ?_⟩
    rw [Segment.forall₂_spelled_iff, ofText_dotted]
  · intro h
    obtain ⟨path, pieces, hending, hcut, hpieces⟩ := h
    rw [Segment.forall₂_spelled_iff] at hpieces
    rw [parse, ending_iff.mp hending]
    dsimp only
    rw [ofText_dotted, Text.cut_iff.mp hcut, hpieces]

end Key

end RecordFilter
