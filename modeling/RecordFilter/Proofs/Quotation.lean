/-
Quoted literals in rendered expressions. A value may hold any characters,
quotation marks and backslashes among them, and whatever it holds, it stays
between the quotation marks that were put around it.

# Reading back

`Text.unquote?` takes the characters that `Text.escape` has written for one
character at a time, so that the two are in step behind any text
(`unquote?_escape`). What stands behind the closing quotation mark is handed
on unread; so a quoted text is never the beginning of another, and where two
texts that start with quoted ones are equal, these are (`quote_append_inj`).

# Expressions

Between its quotation marks a value stands in the rendered expression as it
does alone (`Expression.quote_infix_render`), so that it is read back there,
and its last quotation mark is its own.

Nor does it reach what is around it. `Text.dissect?` cuts a text into its
outline, which has nothing between its quotation marks, and the texts that
stood there. Cutting goes on behind a quoted text as if it had not been
there, hence part by part (`Dissected.append`), and comes out of a rendered
expression with its values and an outline in which they do not occur
(`Expression.dissected_render`). For this, no quotation mark may stand in
what is rendered without any around it, which are paths and bare literals.
-/
import RecordFilter.Expression
import RecordFilter.Proofs.Formula

namespace RecordFilter

namespace Text

variable {text inside after : List Char}

-- ========================================================== quoted texts

/-- Reads a text between quotation marks, and hands on what stands behind
it. -/
def readQuoted? : List Char → Option (List Char × List Char)
  | '"' :: rest => unquote? rest
  | _ => none

/-- A character behind a backslash stands for itself. -/
theorem unquote?_escaped (c : Char) (rest : List Char) :
    unquote? ('\\' :: c :: rest)
      = (unquote? rest).map fun (text, after) => (c :: text, after) :=
  rfl

/-- A character that is neither a quotation mark nor a backslash stands for
itself. -/
theorem unquote?_other {c : Char} (h : ¬ (c = '"' ∨ c = '\\'))
    (rest : List Char) :
    unquote? (c :: rest)
      = (unquote? rest).map fun (text, after) => (c :: text, after) := by
  rw [not_or] at h
  rw [unquote?]
  · exact h.1
  · intro _ _ hc
    exact absurd hc h.2

/-- A text is read back from its escaped form, up to the first quotation mark
behind it. -/
theorem unquote?_escape (text after : List Char) :
    unquote? (escape text ++ '"' :: after) = some (text, after) := by
  induction text with
  | nil => rfl
  | cons c rest ih =>
      rw [escape]
      split
      · rw [List.cons_append, List.cons_append, unquote?_escaped, ih]
        rfl
      · next hplain =>
        rw [List.cons_append, unquote?_other hplain, ih]
        rfl

/-- From its opening mark on, a quoted text is read back whatever follows. -/
theorem readQuoted?_quote (text after : List Char) :
    readQuoted? (quote text ++ after) = some (text, after) := by
  rw [quote, List.append_assoc]
  exact unquote?_escape text after

/-- Where quoted texts end can be seen from the texts alone. -/
theorem quote_append_inj {a b after after' : List Char} :
    quote a ++ after = quote b ++ after' ↔ a = b ∧ after = after' := by
  constructor
  · intro h
    have hread := readQuoted?_quote a after
    rw [h, readQuoted?_quote] at hread
    obtain ⟨rfl, rfl⟩ := Prod.mk.inj (Option.some.inj hread)
    exact ⟨rfl, rfl⟩
  · rintro ⟨rfl, rfl⟩
    rfl

/-- What was read up to its closing quotation mark is read so whatever
follows. -/
theorem exists_of_unquote? (h : unquote? text = some (inside, after)) :
    ∃ written, text = written ++ '"' :: after
      ∧ ∀ rest, unquote? (written ++ '"' :: rest) = some (inside, rest) := by
  fun_induction unquote? text generalizing inside with
  | case1 => cases h
  | case2 behind =>
      cases h
      exact ⟨[], rfl, fun _ => rfl⟩
  | case3 c behind ih =>
      obtain ⟨⟨read, _⟩, hread, hpair⟩ := Option.map_eq_some_iff.mp h
      obtain ⟨rfl, rfl⟩ := Prod.mk.inj hpair
      obtain ⟨written, rfl, hany⟩ := ih hread
      refine ⟨'\\' :: c :: written, rfl, fun rest => ?_⟩
      rw [List.cons_append, List.cons_append, unquote?_escaped, hany]
      rfl
  | case4 c behind hmark hescape ih =>
      obtain ⟨⟨read, left⟩, hread, hpair⟩ := Option.map_eq_some_iff.mp h
      obtain ⟨rfl, rfl⟩ := Prod.mk.inj hpair
      obtain ⟨written, rfl, hany⟩ := ih hread
      have hplain : ¬ (c = '"' ∨ c = '\\') := by
        rintro (hc | hc)
        · exact hmark hc
        · -- a backslash has something behind it, and would have been read
          -- as one
          obtain ⟨first, later, hbehind⟩ := List.exists_cons_of_ne_nil
            (List.append_ne_nil_of_right_ne_nil written
              (List.cons_ne_nil '"' left))
          exact hescape first later hc hbehind
      refine ⟨c :: written, rfl, fun rest => ?_⟩
      rw [List.cons_append, unquote?_other hplain, hany]
      rfl

/-- What follows the closing mark makes no difference. -/
theorem unquote?_append (h : unquote? text = some (inside, after))
    (rest : List Char) :
    unquote? (text ++ rest) = some (inside, after ++ rest) := by
  obtain ⟨written, rfl, hany⟩ := exists_of_unquote? h
  rw [List.append_assoc]
  exact hany (after ++ rest)

/-- What is left behind the closing mark is shorter. -/
theorem length_lt_of_unquote? (h : unquote? text = some (inside, after)) :
    after.length < text.length := by
  obtain ⟨written, rfl, -⟩ := exists_of_unquote? h
  rw [List.length_append, List.length_cons]
  omega

-- ============================================================== outlines

/-- Cuts a text into its outline, with nothing left between quotation marks,
and the texts that stood between them, in order. -/
def dissect? : List Char → Option (List Char × List String)
  | [] => some ([], [])
  | c :: rest =>
    if c = '"' then
      match h : unquote? rest with
      | none => none
      | some (inside, after) =>
        have := length_lt_of_unquote? h
        (dissect? after).map fun (outline, texts) =>
          ('"' :: '"' :: outline, String.ofList inside :: texts)
    else (dissect? rest).map fun (outline, texts) => (c :: outline, texts)
termination_by text => text.length

/-- The outline of a text and what stands in it. -/
abbrev Dissected (text outline : List Char) (texts : List String) : Prop :=
  dissect? text = some (outline, texts)

theorem dissect?_other {c : Char} (h : c ≠ '"') (rest : List Char) :
    dissect? (c :: rest)
      = (dissect? rest).map fun (outline, texts) => (c :: outline, texts) := by
  rw [dissect?, if_neg h]

/-- A text whose marks do not close cannot be taken apart. -/
theorem dissect?_none (h : unquote? text = none) :
    dissect? ('"' :: text) = none := by
  rw [dissect?, if_pos rfl]
  split
  · rfl
  · next hread =>
    rw [h] at hread
    cases hread

/-- A quoted text leaves its two marks in the outline, and is put to the
texts. -/
theorem dissect?_some (h : unquote? text = some (inside, after)) :
    dissect? ('"' :: text) = (dissect? after).map fun (outline, texts) =>
      ('"' :: '"' :: outline, String.ofList inside :: texts) := by
  rw [dissect?, if_pos rfl]
  split
  · next hread =>
    rw [h] at hread
    cases hread
  · next hread =>
    rw [h] at hread
    cases hread
    rfl

namespace Dissected

variable {front outline outline' : List Char} {texts texts' : List String}

/-- Without a mark in it, a text is its own outline. -/
theorem of_notMem (h : '"' ∉ text) : Dissected text text [] := by
  induction text with
  | nil => rw [Dissected, dissect?]
  | cons c rest ih =>
      rw [List.mem_cons, not_or] at h
      rw [Dissected, dissect?_other (Ne.symm h.1), ih h.2]
      rfl

theorem quote (raw : String) :
    Dissected (Text.quote raw.toList) (Text.quote []) [raw] := by
  have hread := unquote?_escape raw.toList []
  rw [Dissected, Text.quote, List.cons_append, dissect?_some hread, dissect?,
    String.ofList_toList]
  rfl

/-- Behind a text that closes its quotation marks, cutting starts afresh. -/
theorem append (hfront : Dissected front outline texts)
    (htext : Dissected text outline' texts') :
    Dissected (front ++ text) (outline ++ outline') (texts ++ texts') := by
  fun_induction dissect? front generalizing outline texts with
  | case1 =>
      rw [Dissected, dissect?] at hfront
      cases hfront
      exact htext
  | case2 rest hread =>
      rw [Dissected, dissect?_none hread] at hfront
      cases hfront
  | case3 rest inside after hread _ ih =>
      rw [Dissected, dissect?_some hread] at hfront
      obtain ⟨⟨outline, texts⟩, hafter, hpair⟩ :=
        Option.map_eq_some_iff.mp hfront
      obtain ⟨rfl, rfl⟩ := Prod.mk.inj hpair
      rw [Dissected, List.cons_append,
        dissect?_some (unquote?_append hread text), ih hafter]
      rfl
  | case4 c rest hmark ih =>
      rw [Dissected, dissect?_other hmark] at hfront
      obtain ⟨⟨outline, texts⟩, hrest, hpair⟩ :=
        Option.map_eq_some_iff.mp hfront
      obtain ⟨rfl, rfl⟩ := Prod.mk.inj hpair
      rw [Dissected, List.cons_append, dissect?_other hmark, ih hrest]
      rfl

end Dissected

end Text

-- ============================================================== literals

namespace Literal

/-- The text that a literal is rendered with between quotation marks. -/
def quotation? : Literal → Option String
  | quoted raw | dateTime raw => some raw
  | null | bare _ => none

/-- The literal with nothing between its quotation marks. -/
def emptied : Literal → Literal
  | quoted _ => quoted ""
  | dateTime _ => dateTime ""
  | null => null
  | bare raw => bare raw

/-- The quotation of a literal is part of its text. -/
theorem quote_infix_text {literal : Literal} {raw : String}
    (h : literal.quotation? = some raw) :
    Text.quote raw.toList <:+: literal.text := by
  cases literal with
  | null => cases h
  | bare _ => cases h
  | quoted _ =>
      cases h
      exact List.infix_rfl
  | dateTime _ =>
      cases h
      exact List.infix_append ..

/-- A literal is taken apart into its outline and its quotation, if there is
one. A bare one must hold no mark. -/
theorem dissected_text (literal : Literal)
    (h : ∀ raw, literal = bare raw → '"' ∉ raw.toList) :
    Text.Dissected literal.text literal.emptied.text
      literal.quotation?.toList := by
  cases literal with
  | null => exact .of_notMem (by decide)
  | bare raw => exact .of_notMem (h raw rfl)
  | quoted raw => exact .quote raw
  | dateTime raw =>
      have hopen : Text.Dissected "datetime(".toList "datetime(".toList [] :=
        .of_notMem (by decide)
      have hclose : Text.Dissected [')'] [')'] [] := .of_notMem (by decide)
      exact (hopen.append (.quote raw)).append hclose

end Literal

-- =========================================================== comparisons

namespace Comparison

/-- The comparison with nothing between its quotation marks. -/
def emptied (c : Comparison) : Comparison :=
  { c with literal := c.literal.emptied }

/-- The quotation of a comparison is part of its text. -/
theorem quote_infix_render {c : Comparison} {raw : String}
    (h : c.literal.quotation? = some raw) :
    Text.quote raw.toList <:+: c.render.toList := by
  rw [render, String.toList_append, Literal.render, String.toList_ofList]
  exact (Literal.quote_infix_text h).trans (List.suffix_append ..).isInfix

/-- No quotation marks stand in a comparison but those around its literal. -/
structure Unmarked (c : Comparison) : Prop where
  path : '"' ∉ c.path.render.toList
  literal : ∀ raw, c.literal = .bare raw → '"' ∉ raw.toList

/-- A comparison without a mark outside its literal is taken apart there. -/
theorem dissected_render {c : Comparison} (h : c.Unmarked) :
    Text.Dissected c.render.toList c.emptied.render.toList
      c.literal.quotation?.toList := by
  have hspace : Text.Dissected " ".toList " ".toList [] :=
    .of_notMem (by decide)
  have hoperator :
      Text.Dissected c.operator.token.toList c.operator.token.toList [] := by
    refine .of_notMem ?_
    cases c.operator <;> decide
  have hliteral := c.literal.dissected_text h.literal
  unfold render Literal.render
  simp only [String.toList_append, String.toList_ofList]
  exact ((((Text.Dissected.of_notMem h.path).append hspace).append
    hoperator).append hspace).append hliteral

end Comparison

-- ============================================================== formulas

namespace Formula

variable {α : Type} {atomText outlineText : α → String}
  {textsOf : α → List String}

mutual

/-- Every atom stands in the rendered formula. -/
theorem infix_render :
    (f : Formula α) →
      ∀ a ∈ f.atoms, (atomText a).toList <:+: (f.render atomText).toList
  | atom b, a, h => by
      obtain rfl : a = b := List.mem_singleton.mp h
      exact List.infix_rfl
  | all parts, a, h => by
      rw [render]
      refine infix_renderAll (fun s => ?_) parts a h
      rw [String.toList_append, String.toList_append]
      exact List.infix_append ..
  | any parts, a, h => by
      rw [render]
      exact infix_renderAll (fun _ => List.infix_rfl) parts a h

/-- So it does in rendered parts with a separator between them. -/
theorem infix_renderAll {separator : String} {around : String → String}
    (haround : ∀ s, s.toList <:+: (around s).toList) :
    (parts : List (Formula α)) → ∀ a ∈ atomsOf parts, (atomText a).toList
      <:+: (separator.intercalate (renderAll around atomText parts)).toList
  | [part], a, h => by
      rw [atomsOf, atomsOf, List.append_nil] at h
      have hpart := (infix_render part a h).trans (haround _)
      simpa only [renderAll, String.toList_intercalate, List.map_cons,
        List.map_nil, List.intercalate_singleton] using hpart
  | part :: next :: rest, a, h => by
      rw [atomsOf, List.mem_append] at h
      simp only [renderAll, String.toList_intercalate, List.map_cons,
        List.intercalate_cons_cons]
      rcases h with h | h
      · have hpart := (infix_render part a h).trans (haround _)
        rw [List.append_assoc]
        exact hpart.trans (List.prefix_append ..).isInfix
      · have hrest : (atomText a).toList
            <:+: (separator.intercalate
              (renderAll around atomText (next :: rest))).toList :=
          infix_renderAll haround (next :: rest) a h
        simp only [renderAll, String.toList_intercalate,
          List.map_cons] at hrest
        exact hrest.trans (List.suffix_append ..).isInfix

end

mutual

/-- A rendered formula is cut where its atoms are. -/
theorem dissected_render :
    (f : Formula α) →
      (∀ a ∈ f.atoms, Text.Dissected (atomText a).toList (outlineText a).toList
        (textsOf a)) →
      Text.Dissected (f.render atomText).toList (f.render outlineText).toList
        (f.atoms.flatMap textsOf)
  | atom a, h => by
      rw [render, render, atoms, List.flatMap_singleton]
      exact h a (List.mem_singleton_self a)
  | all parts, h => by
      have hopen : Text.Dissected "(".toList "(".toList [] :=
        .of_notMem (by decide)
      have hclose : Text.Dissected ")".toList ")".toList [] :=
        .of_notMem (by decide)
      rw [render, render, atoms]
      refine dissected_renderAll (by decide) (fun s outline texts hs => ?_)
        parts h
      simp only [String.toList_append]
      have hpart := (hopen.append hs).append hclose
      rwa [List.nil_append, List.append_nil] at hpart
  | any parts, h => by
      rw [render, render, atoms]
      exact dissected_renderAll (by decide) (fun _ _ _ hs => hs) parts h

/-- So are rendered parts with a separator between them. -/
theorem dissected_renderAll {separator : String} {around : String → String}
    (hseparator : '"' ∉ separator.toList)
    (haround : ∀ s outline texts,
      Text.Dissected s.toList outline.toList texts →
      Text.Dissected (around s).toList (around outline).toList texts) :
    (parts : List (Formula α)) →
      (∀ a ∈ atomsOf parts,
        Text.Dissected (atomText a).toList (outlineText a).toList
          (textsOf a)) →
      Text.Dissected
        (separator.intercalate (renderAll around atomText parts)).toList
        (separator.intercalate (renderAll around outlineText parts)).toList
        ((atomsOf parts).flatMap textsOf)
  | [], _ => .of_notMem List.not_mem_nil
  | [part], h => by
      rw [atomsOf, atomsOf, List.append_nil] at h ⊢
      have hpart := haround _ _ _ (dissected_render part h)
      simpa only [renderAll, String.toList_intercalate, List.map_cons,
        List.map_nil, List.intercalate_singleton] using hpart
  | part :: next :: rest, h => by
      rw [atomsOf, List.forall_mem_append] at h
      have hpart := haround _ _ _ (dissected_render part h.1)
      have hrest := dissected_renderAll hseparator haround (next :: rest) h.2
      have hwhole := (hpart.append (.of_notMem hseparator)).append hrest
      rw [List.append_nil, ← List.flatMap_append] at hwhole
      rw [atomsOf]
      simpa only [renderAll, String.toList_intercalate, List.map_cons,
        List.intercalate_cons_cons] using hwhole

end

end Formula

-- =========================================================== expressions

namespace Expression

/-- Every quotation of an expression is part of its text. -/
theorem quote_infix_render {e : Expression} {c : Comparison} {raw : String}
    (hc : c ∈ e.comparisons) (h : c.literal.quotation? = some raw) :
    Text.quote raw.toList <:+: e.render.toList := by
  cases e with
  | empty => cases hc
  | formula f =>
      exact (Comparison.quote_infix_render h).trans (f.infix_render c hc)

/-- The rendered expression with nothing between its quotation marks. -/
def outline (e : Expression) : String :=
  e.formula?.elim "" (Formula.render fun c => c.emptied.render)

/-- An expression without a mark outside its literals is taken apart into its
outline and all its quotations, in order. -/
theorem dissected_render (e : Expression)
    (h : ∀ c ∈ e.comparisons, c.Unmarked) :
    Text.Dissected e.render.toList e.outline.toList
      (e.comparisons.filterMap fun c => c.literal.quotation?) := by
  cases e with
  | empty => exact .of_notMem List.not_mem_nil
  | formula f =>
      rw [List.filterMap_eq_flatMap_toList]
      exact f.dissected_render fun c hc => Comparison.dissected_render (h c hc)

end Expression

namespace Literal

theorem toList_render_quoted (raw : String) :
    (quoted raw).render.toList = Text.quote raw.toList :=
  String.toList_ofList

theorem toList_render_dateTime (raw : String) :
    (dateTime raw).render.toList
      = "datetime(".toList ++ (Text.quote raw.toList ++ [')']) := by
  rw [render, String.toList_ofList]
  exact List.append_assoc ..

/-- A quoted literal is read back from its rendered form, up to what stands
behind it, and so is the quoted part of a date and time; different texts are
rendered differently. So a value is read back wherever it stands in a
rendered expression. If the paths and bare literals there have no quotation
marks, all the texts between quotation marks are values, and the rest is the
same whatever they are. -/
theorem render_unambiguous :
    (∀ (raw : String) (rest : List Char),
        Text.readQuoted? ((quoted raw).render.toList ++ rest)
          = some (raw.toList, rest))
      ∧ (∀ (raw : String) (rest : List Char), ∃ behind,
        (dateTime raw).render.toList ++ rest = "datetime(".toList ++ behind
          ∧ Text.readQuoted? behind = some (raw.toList, ')' :: rest))
      ∧ (∀ a b r s : String,
        (quoted a).render ++ r = (quoted b).render ++ s ↔ a = b ∧ r = s)
      ∧ (∀ a b r s : String,
        (dateTime a).render ++ r = (dateTime b).render ++ s ↔ a = b ∧ r = s)
      ∧ (∀ e : Expression, ∀ c ∈ e.comparisons, ∀ raw,
        c.literal.quotation? = some raw →
        ∃ before behind,
          e.render.toList = before ++ (Text.quote raw.toList ++ behind)
          ∧ Text.readQuoted? (Text.quote raw.toList ++ behind)
            = some (raw.toList, behind))
      ∧ ∀ e : Expression, (∀ c ∈ e.comparisons, c.Unmarked) →
        Text.dissect? e.render.toList
          = some (e.outline.toList,
            e.comparisons.filterMap fun c => c.literal.quotation?) := by
  refine ⟨fun raw rest => ?_, fun raw rest => ?_, fun a b r s => ?_,
    fun a b r s => ?_, fun e c hc raw hraw => ?_, Expression.dissected_render⟩
  · rw [toList_render_quoted]
    exact Text.readQuoted?_quote raw.toList rest
  · refine ⟨Text.quote raw.toList ++ ')' :: rest, ?_,
      Text.readQuoted?_quote raw.toList _⟩
    rw [toList_render_dateTime, List.append_assoc, List.append_assoc]
    rfl
  · rw [← String.toList_inj, String.toList_append, String.toList_append,
      toList_render_quoted, toList_render_quoted, Text.quote_append_inj,
      String.toList_inj, String.toList_inj]
  · rw [← String.toList_inj, String.toList_append, String.toList_append,
      toList_render_dateTime, toList_render_dateTime]
    simp only [List.append_assoc, List.append_cancel_left_eq,
      Text.quote_append_inj, String.toList_inj]
  · obtain ⟨before, behind, hrender⟩ := Expression.quote_infix_render hc hraw
    rw [List.append_assoc] at hrender
    exact ⟨before, behind, hrender.symm,
      Text.readQuoted?_quote raw.toList behind⟩

/-- A value that tries to close its quotation marks, and to keep the added one
from closing. -/
theorem render_unambiguous_hostile :
    ∃ c : Comparison, c.Unmarked
      ∧ c.literal.quotation? = some "x\" OR role == \"admin\\"
      ∧ (Expression.formula (.all [.atom c])).render
        = "(name == \"x\\\" OR role == \\\"admin\\\\\")"
      ∧ (∃ before behind, (Expression.formula (.all [.atom c])).render.toList
          = before ++ (Text.quote "x\" OR role == \"admin\\".toList ++ behind)
        ∧ Text.readQuoted?
          (Text.quote "x\" OR role == \"admin\\".toList ++ behind)
          = some ("x\" OR role == \"admin\\".toList, behind))
      ∧ Text.dissect? (Expression.formula (.all [.atom c])).render.toList
        = some ("(name == \"\")".toList, ["x\" OR role == \"admin\\"]) := by
  obtain ⟨-, -, -, -, hread, hcut⟩ := render_unambiguous
  have hunmarked : Comparison.Unmarked
      ⟨⟨[⟨"name", []⟩]⟩, .equal, .quoted "x\" OR role == \"admin\\", .text⟩ :=
    ⟨by decide, by rintro _ ⟨⟩⟩
  refine ⟨_, hunmarked, rfl, rfl, hread _ _ (List.mem_singleton_self _) _ rfl,
    ?_⟩
  rw [hcut (.formula (.all [.atom _]))
    (List.forall_mem_singleton.mpr hunmarked)]
  rfl

end Literal

end RecordFilter
