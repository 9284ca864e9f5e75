/-
Paths as text, and back. A path is rendered segment by segment, each name
with its subscripts behind it, and is read back unless a name holds
something that is not read as part of a name: a dot, or a numeral in
brackets. Brackets that do not pair, digits and empty names do no harm.

# The seam

Where a name ends in `[1` and its first subscript is `[0]`, the text goes on
`[1[0]`. The name is a plain chunk and what follows it opens a subscript, so
that the rendered segment is a spelling (`Spelling.ofWords`) and the reader
finds that one and no other. In a numeral of up to 64 bits nothing is lost,
as the greatest word is the first value that is cut.

As keys, paths are cut at hyphens too, and an operator symbol at the end is
no part of the path. The text of a path that ends in such a symbol is no key
for it; with a symbol of its own behind, it is.
-/
import RecordFilter.Proofs.Grammar
import RecordFilter.Text.Pieces

namespace RecordFilter

-- ============================================================== segments

namespace Segment

/-- A chunk with numerals in brackets behind it. -/
def Spelling.ofWords (chunk : List Char) : List UInt64 → Spelling
  | [] => .last chunk
  | i :: rest => .subscript chunk (Numeral.digits i.toNat) (ofWords [] rest)

variable {segment : Segment} {chunk : List Char}

/-- The digits of a number are a numeral. -/
theorem isNumeral_digits (n : Nat) : IsNumeral (Numeral.digits n) :=
  ⟨Numeral.digits_ne_nil n, fun _ hc => Numeral.isDigit_of_mem_digits hc⟩

/-- The text of a chunk and words is the chunk with each word in brackets. -/
theorem text_ofWords (chunk : List Char) (words : List UInt64) :
    (Spelling.ofWords chunk words).text
      = chunk
        ++ words.flatMap fun i => '[' :: Numeral.digits i.toNat ++ [']'] := by
  induction words generalizing chunk with
  | nil =>
      rw [List.flatMap_nil, List.append_nil]
      rfl
  | cons i rest ih =>
      rw [Spelling.ofWords, Spelling.text, ih, List.flatMap_cons]
      rfl

/-- If the chunk looks like no subscript, the spelling is clean. -/
theorem clean_ofWords (h : Plain chunk) (words : List UInt64) :
    (Spelling.ofWords chunk words).Clean := by
  induction words generalizing chunk with
  | nil => exact h
  | cons i rest ih => exact ⟨h, isNumeral_digits _, ih plain_nil⟩

theorem name_ofWords (chunk : List Char) (words : List UInt64) :
    (Spelling.ofWords chunk words).name = chunk := by
  induction words generalizing chunk with
  | nil => rfl
  | cons i rest ih => rw [Spelling.ofWords, Spelling.name, ih, List.append_nil]

theorem numerals_ofWords (chunk : List Char) (words : List UInt64) :
    (Spelling.ofWords chunk words).numerals
      = words.map fun i => Numeral.digits i.toNat := by
  induction words generalizing chunk with
  | nil => rfl
  | cons i rest ih =>
      rw [Spelling.ofWords, Spelling.numerals, ih, List.map_cons]

/-- A word is read back from its digits, for it is not too large for one. -/
theorem subscriptOf_digits (i : UInt64) :
    subscriptOf (Numeral.digits i.toNat) = i := by
  have hword : i.toNat < UInt64.size := i.toNat_lt
  rw [← UInt64.toNat_inj, toNat_subscriptOf, Numeral.value_digits]
  exact Nat.min_eq_left (Nat.le_sub_one_of_lt hword)

/-- A segment is read back from its text. -/
theorem ofText_text (h : Plain segment.name.toList) :
    ofText segment.text = segment := by
  have htext : segment.text
      = (Spelling.ofWords segment.name.toList segment.subscripts).text := by
    rw [text_ofWords]
    rfl
  have hwords :
      (segment.subscripts.map fun i => Numeral.digits i.toNat).map subscriptOf
        = segment.subscripts := by
    rw [List.map_map]
    exact (List.map_congr_left fun i _ => subscriptOf_digits i).trans
      (List.map_id _)
  rw [htext, ofText, scan_text (clean_ofWords h _), name_ofWords,
    numerals_ofWords]
  dsimp only
  rw [hwords, String.ofList_toList]

/-- Rendering adds brackets and digits to a name. -/
theorem isSeparator_of_mem_text {isSeparator : Char → Bool}
    (hadded : ∀ c : Char, c = '[' ∨ c = ']' ∨ c.isDigit = true →
      isSeparator c = false)
    (hname : ∀ c ∈ segment.name.toList, isSeparator c = false) :
    ∀ c ∈ segment.text, isSeparator c = false := by
  intro c hc
  rw [text, List.mem_append, List.mem_flatMap] at hc
  rcases hc with hc | ⟨i, -, hc⟩
  · exact hname c hc
  · apply hadded
    rw [List.mem_append, List.mem_cons, List.mem_singleton] at hc
    rcases hc with (hopening | hdigit) | hclosing
    · exact .inl hopening
    · exact .inr (.inr (Numeral.isDigit_of_mem_digits hdigit))
    · exact .inr (.inl hclosing)

end Segment

-- ================================================================= paths

/-- What rendering adds separates nothing. -/
theorem Key.isSeparator_of_added {c : Char}
    (h : c = '[' ∨ c = ']' ∨ c.isDigit = true) :
    Key.isSeparator c = false := by
  rcases h with hopening | hclosing | hdigit
  · rw [hopening]
    rfl
  · rw [hclosing]
    rfl
  · -- a digit is neither the dot nor the hyphen
    by_contra hseparator
    simp only [Key.isSeparator, Bool.not_eq_false, Bool.or_eq_true,
      beq_iff_eq] at hseparator
    rcases hseparator with hdot | hhyphen
    · rw [hdot] at hdigit
      cases hdigit
    · rw [hhyphen] at hdigit
      cases hdigit

namespace Path

variable {path : Path}

/-- A rendered path is cut into its segments by any separators of which the
dot is one and of which its names hold none. -/
theorem segments_of_text {isSeparator : Char → Bool}
    (hnonempty : path.segments ≠ []) (hdot : isSeparator '.' = true)
    (hadded : ∀ c : Char, c = '[' ∨ c = ']' ∨ c.isDigit = true →
      isSeparator c = false)
    (hnames : ∀ segment ∈ path.segments,
      ∀ c ∈ segment.name.toList, isSeparator c = false)
    (hplain : ∀ segment ∈ path.segments, Segment.Plain segment.name.toList) :
    (path.text.splitOnP isSeparator).map Segment.ofText = path.segments := by
  have hsplit :
      path.text.splitOnP isSeparator = path.segments.map Segment.text := by
    apply Text.splitOnP_intercalate hdot
    · simpa using hnonempty
    · intro piece hpiece
      obtain ⟨segment, hsegment, rfl⟩ := List.mem_map.mp hpiece
      exact Segment.isSeparator_of_mem_text hadded (hnames segment hsegment)
  rw [hsplit, List.map_map]
  exact (List.map_congr_left fun segment hsegment =>
    Segment.ofText_text (hplain segment hsegment)).trans (List.map_id _)

/-- A path with no dot in its names is read back from its text. -/
theorem ofText_text (hnonempty : path.segments ≠ [])
    (hdots : ∀ segment ∈ path.segments, '.' ∉ segment.name.toList)
    (hplain : ∀ segment ∈ path.segments, Segment.Plain segment.name.toList) :
    ofText path.text = path := by
  have hsegments :
      (path.text.splitOn '.').map Segment.ofText = path.segments := by
    apply segments_of_text hnonempty
    · rfl
    · intro c hc
      have hkey := Key.isSeparator_of_added hc
      rw [Key.isSeparator, Bool.or_eq_false_iff] at hkey
      exact hkey.1
    · intro segment hsegment c hc
      rw [beq_eq_false_iff_ne]
      intro heq
      exact hdots segment hsegment (heq ▸ hc)
    · exact hplain
  rw [ofText, hsegments]

/-- With no hyphen in it, a path is read from its text as that of a key. -/
theorem pathOf_render (hnonempty : path.segments ≠ [])
    (hdots : ∀ segment ∈ path.segments, '.' ∉ segment.name.toList)
    (hhyphens : ∀ segment ∈ path.segments, '-' ∉ segment.name.toList)
    (hplain : ∀ segment ∈ path.segments, Segment.Plain segment.name.toList) :
    Key.pathOf path.render = path := by
  have hsegments : (path.text.splitOnP Key.isSeparator).map Segment.ofText
      = path.segments := by
    apply segments_of_text hnonempty
    · rfl
    · intro c hc
      exact Key.isSeparator_of_added hc
    · intro segment hsegment c hc
      rw [Key.isSeparator, Bool.or_eq_false_iff, beq_eq_false_iff_ne,
        beq_eq_false_iff_ne]
      refine ⟨fun heq => ?_, fun heq => ?_⟩
      · exact hdots segment hsegment (heq ▸ hc)
      · exact hhyphens segment hsegment (heq ▸ hc)
    · exact hplain
  rw [Key.pathOf, render, String.toList_ofList, Key.ofText_dotted, hsegments]

/-- A path is read back from its text, and with no hyphen in it from its
text as a key too, with any operator symbol behind it or with none. -/
theorem parse_render (hnonempty : path.segments ≠ [])
    (hnames : ∀ segment ∈ path.segments,
      '.' ∉ segment.name.toList ∧ Segment.Plain segment.name.toList) :
    Path.parse path.render = path
      ∧ ((∀ segment ∈ path.segments, '-' ∉ segment.name.toList) →
        (∀ operator : Operator,
          Key.parse (path.render ++ String.singleton operator.symbol)
            = ⟨path, operator⟩)
        ∧ ((∀ operator : Operator,
            path.render.toList.getLast? ≠ some operator.symbol) →
          Key.parse path.render = ⟨path, .equal⟩)) := by
  have hdots : ∀ segment ∈ path.segments, '.' ∉ segment.name.toList :=
    fun segment hsegment => (hnames segment hsegment).1
  have hplain : ∀ segment ∈ path.segments, Segment.Plain segment.name.toList :=
    fun segment hsegment => (hnames segment hsegment).2
  refine ⟨?_, fun hhyphens => ?_⟩
  · rw [Path.parse, render, String.toList_ofList, ofText_text hnonempty hdots
      hplain]
  · have hpath := pathOf_render hnonempty hdots hhyphens hplain
    refine ⟨fun operator => ?_, fun hbare => ?_⟩
    · rw [Key.parse_append_symbol, hpath]
    · rw [Key.parse_bare hbare, hpath]

/-- A name that ends in an open bracket and a digit, and a name that is
empty, with the greatest subscript there is. -/
theorem parse_render_seam :
    ∃ path : Path, path.render = "a[1[0].[18446744073709551615]"
      ∧ Path.parse path.render = path
      ∧ Key.parse (path.render ++ "!") = ⟨path, .notEqual⟩
      ∧ Key.parse path.render = ⟨path, .equal⟩ := by
  have hnames :
      ∀ segment ∈ [(⟨"a[1", [0]⟩ : Segment), ⟨"", [18446744073709551615]⟩],
        '.' ∉ segment.name.toList ∧ Segment.Plain segment.name.toList := by
    intro segment hsegment
    simp only [List.mem_cons, List.not_mem_nil, or_false] at hsegment
    rcases hsegment with rfl | rfl
    · refine ⟨by decide, Segment.plain_iff.mpr ?_⟩
      have hname : "a[1".toList = ['a', '[', '1'] := rfl
      have hopen : Segment.subscript? ['1'] = none := rfl
      rw [hname, Segment.scan_cons_other (by decide),
        Segment.scan_cons_none hopen, Segment.scan_cons_other (by decide),
        Segment.scan]
    · exact ⟨by decide, Segment.plain_nil⟩
  obtain ⟨hparse, hkey⟩ := parse_render (by decide) hnames
  obtain ⟨hsymbol, hbare⟩ := hkey (by decide)
  refine ⟨_, rfl, hparse, hsymbol .notEqual, hbare ?_⟩
  intro operator
  cases operator <;> decide

end Path

end RecordFilter
