/-
The operators for texts. Each asks for a part of a text, at its beginning,
at its end or anywhere, and asks for it letter by letter: where equality
disregards case, these do not. `Operator.Composes` says so by putting the
text together from the part and what is left of it.

# From texts to records

A comparison with such an operator compiles for every path that leads to a
text and every literal but null, whatever the literal looks like. It then
accepts exactly the records in which the path selects a text that the
operator composes from the literal (`accepts_iff_composes`). What else
the path selects counts for nothing, null included, and the empty part too
is found only in texts.

That one comparison accepts more than another is then a matter of texts
alone: a part at the beginning or at the end is a part anywhere
(`Composes.contains_of`), and so is a part of a part (`Composes.of_infix`).
-/
import RecordFilter.Proofs.Reading

namespace RecordFilter

variable {operator : Operator} {part s : String} {v : Value}

-- ================================================================= texts

namespace Operator

/-- Texts that are put together from a part in the way that an operator
asks for. -/
inductive Composes : Operator → String → String → Prop where
  | startsWith (part behind : String) :
      Composes .startsWith part (part ++ behind)
  | endsWith (front part : String) : Composes .endsWith part (front ++ part)
  | contains (front part behind : String) :
      Composes .contains part (front ++ part ++ behind)

/-- A text begins with a part that something is put behind. -/
theorem composes_startsWith_iff :
    Composes .startsWith part s ↔ part.toList <+: s.toList := by
  constructor
  · rintro ⟨⟩
    rw [String.toList_append]
    exact List.prefix_append _ _
  · rintro ⟨behind, hs⟩
    have hs : s = part ++ String.ofList behind := by
      rw [← String.toList_inj, String.toList_append, String.toList_ofList, hs]
    exact hs ▸ .startsWith part _

/-- A text ends in a part that something is put in front of. -/
theorem composes_endsWith_iff :
    Composes .endsWith part s ↔ part.toList <:+ s.toList := by
  constructor
  · rintro ⟨⟩
    rw [String.toList_append]
    exact List.suffix_append _ _
  · rintro ⟨front, hs⟩
    have hs : s = String.ofList front ++ part := by
      rw [← String.toList_inj, String.toList_append, String.toList_ofList, hs]
    exact hs ▸ .endsWith _ part

/-- A text contains a part that something is put around. -/
theorem composes_contains_iff :
    Composes .contains part s ↔ part.toList <:+: s.toList := by
  constructor
  · rintro ⟨⟩
    rw [String.toList_append, String.toList_append]
    exact List.infix_append _ _ _
  · rintro ⟨front, behind, hs⟩
    have hs : s = String.ofList front ++ part ++ String.ofList behind := by
      rw [← String.toList_inj, String.toList_append, String.toList_append,
        String.toList_ofList, String.toList_ofList, hs]
    exact hs ▸ .contains _ part _

/-- Wherever an operator finds a part, it is contained. -/
theorem Composes.contains_of (h : operator.Composes part s) :
    Composes .contains part s := by
  cases h with
  | startsWith part behind =>
      exact composes_contains_iff.mpr
        (composes_startsWith_iff.mp (.startsWith ..)).isInfix
  | endsWith front part =>
      exact composes_contains_iff.mpr
        (composes_endsWith_iff.mp (.endsWith ..)).isInfix
  | contains front part behind => exact .contains ..

/-- A part of a part is a part. -/
theorem Composes.of_infix (h : Composes .contains part s) {inner : String}
    (hinner : inner.toList <:+: part.toList) : Composes .contains inner s :=
  composes_contains_iff.mpr (hinner.trans (composes_contains_iff.mp h))

end Operator

-- ================================================================= tests

namespace Comparison

/-- The tests of the operators for texts accept the texts that are put
together as the operator asks, and no other value. -/
theorem accepts_textTest (h : operator.isTextOnly = true) :
    (textTest operator part).accepts v = true
      ↔ ∃ s, operator.Composes part s ∧ v = .text s := by
  have hdefined : ∀ answer : Option Bool,
      answer.getD false = true ↔ answer = some true := by
    intro answer
    cases answer <;> simp
  cases v with
  | text s =>
      have hself : (∃ s', operator.Composes part s' ∧ Value.text s = .text s')
          ↔ operator.Composes part s := by
        simp
      rw [hself]
      cases operator with
      | startsWith =>
          rw [textTest, Test.accepts, hdefined, Value.textStartsWith?_text_iff,
            Operator.composes_startsWith_iff]
          rfl
      | endsWith =>
          rw [textTest, Test.accepts, hdefined, Value.textEndsWith?_text_iff,
            Operator.composes_endsWith_iff]
          rfl
      | contains =>
          rw [textTest, Test.accepts, hdefined, Value.textContains?_text_iff,
            Operator.composes_contains_iff]
          rfl
      | equal | notEqual | atMost | atLeast => cases h
  | null | bool _ | int _ | uint _ | float _ | variant _ | dateTime _
  | other _ =>
      refine iff_of_false ?_ nofun
      cases operator with
      | startsWith | endsWith | contains => exact Bool.false_ne_true
      | equal | notEqual | atMost | atLeast => cases h

-- =========================================================== comparisons

variable {schema : Schema} {r : Resolution} {c : Comparison}

/-- Every literal but null makes the test of a text that its operator
stands for. -/
theorem typed_textTest (hresolve : schema.resolve? c.path.names = some r)
    (hscalar : r.terminal = .leaf .text)
    (hliteral : c.literal.raw? = some part) :
    c.Typed schema r .text (textTest c.operator part) where
  resolved := hresolve
  scalar := hscalar
  tested := by
    have htext : (c.operator.isTextOnly && !LeafKind.text.isText) = false :=
      Bool.and_false _
    rw [test, hliteral]
    dsimp only [literalTest]
    rw [htext]
    rfl

theorem accepts_iff_exists_composes
    (hresolve : schema.resolve? c.path.names = some r)
    (hscalar : r.terminal = .leaf .text)
    (hliteral : c.literal.raw? = some part)
    (hoperator : c.operator.isTextOnly = true) (record : Record) :
    c.Accepts schema record
      ↔ ∃ s, c.operator.Composes part s
        ∧ .text s ∈ schema.selected c.path record := by
  have hpositive : c.operator ≠ .notEqual := by
    intro hnegative
    rw [hnegative] at hoperator
    cases hoperator
  rw [(typed_textTest hresolve hscalar hliteral).accepts_iff_exists hpositive]
  simp only [accepts_textTest hoperator]
  constructor
  · rintro ⟨_, hselected, s, hs, rfl⟩
    exact ⟨s, hs, hselected⟩
  · rintro ⟨s, hs, hselected⟩
    exact ⟨_, hselected, s, hs, rfl⟩

/-- An operator for texts selects by composition. On a path to a text it
compiles with every literal but null, and accepts the records in which the
path selects a text that is put together from the literal as the operator
asks. So what begins or ends with a part also contains it, and with it all
of its own parts. Where the path selects no text, nothing is accepted,
whatever else it selects and however little is asked for. -/
theorem accepts_iff_composes (hresolve : schema.resolve? c.path.names = some r)
    (hscalar : r.terminal = .leaf .text)
    (hliteral : c.literal.raw? = some part)
    (hoperator : c.operator.isTextOnly = true) :
    (∃ p, c.alone.compile schema = .ok p)
      ∧ ∀ record,
        (c.Accepts schema record
          ↔ ∃ s, c.operator.Composes part s
            ∧ .text s ∈ schema.selected c.path record)
        ∧ (c.Accepts schema record →
          Accepts schema record { c with operator := .contains })
        ∧ (c.operator = .contains →
          ∀ literal inner, Literal.raw? literal = some inner →
            inner.toList <:+: part.toList → c.Accepts schema record →
              Accepts schema record { c with literal })
        ∧ ((∀ v ∈ schema.selected c.path record, v.text? = none) →
          ¬ c.Accepts schema record) := by
  have haccepts :=
    accepts_iff_exists_composes hresolve hscalar hliteral hoperator
  refine ⟨?_, fun record => ⟨haccepts record, ?_, ?_, ?_⟩⟩
  · have htyped := typed_textTest hresolve hscalar hliteral
    rw [compile_alone, compile_eq_ok_iff.mpr ⟨_, _, _, htyped, rfl⟩]
    exact ⟨_, rfl⟩
  · intro h
    obtain ⟨s, hs, hselected⟩ := (haccepts record).mp h
    exact (accepts_iff_exists_composes (c := { c with operator := .contains })
      hresolve hscalar hliteral rfl record).mpr ⟨s, hs.contains_of, hselected⟩
  · intro hcontains literal inner hinner hpart h
    obtain ⟨s, hs, hselected⟩ := (haccepts record).mp h
    rw [hcontains] at hs
    refine (accepts_iff_exists_composes (c := { c with literal }) hresolve
      hscalar hinner hoperator record).mpr ⟨s, ?_, hselected⟩
    rw [hcontains]
    exact hs.of_infix hpart
  · intro hnone h
    obtain ⟨s, -, hselected⟩ := (haccepts record).mp h
    cases hnone _ hselected

/-- Of the notes, one ends with a part, and so it contains the part and
every part of that, the empty one included. Without it they are null and a
variant, and contain not even that. -/
theorem accepts_iff_composes_notes :
    (∃ p, (alone ⟨⟨[⟨"Notes", []⟩]⟩, .endsWith, .quoted "ne", .text⟩).compile
        ⟨"Leg", [.list "notes" .text]⟩ = .ok p)
      ∧ Accepts ⟨"Leg", [.list "notes" .text]⟩
        (fun _ => .list [.value .null, .list [.value (.text "Done")]])
        ⟨⟨[⟨"Notes", []⟩]⟩, .contains, .quoted "ne", .text⟩
      ∧ Accepts ⟨"Leg", [.list "notes" .text]⟩
        (fun _ => .list [.value .null, .list [.value (.text "Done")]])
        ⟨⟨[⟨"Notes", []⟩]⟩, .contains, .quoted "", .text⟩
      ∧ ¬ Accepts ⟨"Leg", [.list "notes" .text]⟩
        (fun _ => .list [.value .null, .list [.value (.variant "Done")]])
        ⟨⟨[⟨"Notes", []⟩]⟩, .contains, .quoted "", .text⟩ := by
  have hresolve : Schema.resolve? ⟨"Leg", [.list "notes" .text]⟩ ["Notes"]
      = some _ := rfl
  obtain ⟨hcompile, hends⟩ := accepts_iff_composes
    (c := ⟨⟨[⟨"Notes", []⟩]⟩, .endsWith, .quoted "ne", .text⟩) hresolve rfl rfl
    rfl
  obtain ⟨hends, hcontained, -⟩ :=
    hends (fun _ => .list [.value .null, .list [.value (.text "Done")]])
  have hne := hcontained
    (hends.mpr ⟨"Done", .endsWith "Do" "ne",
      List.mem_cons_of_mem _ (List.mem_cons_self ..)⟩)
  obtain ⟨-, hcontains⟩ := accepts_iff_composes
    (c := ⟨⟨[⟨"Notes", []⟩]⟩, .contains, .quoted "ne", .text⟩) hresolve rfl rfl
    rfl
  obtain ⟨-, -, hparts, -⟩ :=
    hcontains (fun _ => .list [.value .null, .list [.value (.text "Done")]])
  obtain ⟨-, hempty⟩ := accepts_iff_composes
    (c := ⟨⟨[⟨"Notes", []⟩]⟩, .contains, .quoted "", .text⟩) hresolve rfl rfl
    rfl
  obtain ⟨-, -, -, hnone⟩ :=
    hempty (fun _ => .list [.value .null, .list [.value (.variant "Done")]])
  refine ⟨hcompile, hne, hparts rfl _ "" rfl List.nil_infix hne,
    hnone fun v hv => ?_⟩
  obtain rfl | hv := List.mem_cons.mp hv
  · rfl
  · obtain rfl := List.mem_singleton.mp hv
    rfl

end Comparison

end RecordFilter
