/-
Names of fields, as they are told apart. Two names are the same if their
characters, each made small on its own, spell the same. The comparison goes
another way where both names are ASCII, and decides anew for each pair of
names; nothing of that shows, so that sameness is an equality of folded names
(`sameName_iff`) and with it an equivalence (`sameName_equivalence`).

# Names in and beyond ASCII

A chain of names that are the same may lead out of ASCII and back. It can
leave in one way only: of all characters outside ASCII, the Kelvin sign alone
has a lower case within (`exists_lowerChar_beyond`), and it stands for a `k`.
So the spellings of an ASCII name are those with its letters in either case
and Kelvin signs among its letters `k` (`sameName_ascii_iff`).

# What hangs on it

A look-up takes the first field with the name, and validation refuses a field
if one before it has the same. With an equivalence, a look-up does not depend
on the spelling it is given (`Schema.field?_congr`), and the names of a
schema are told apart exactly if no two of them fold to the same
(`distinct_iff`).
-/
import Mathlib
import RecordFilter.Proofs.Declaration
import RecordFilter.Proofs.Folding

namespace RecordFilter

namespace Text

-- =============================================== lower case beyond ASCII

/-- The sign of the unit, which looks like the letter it came from. -/
def kelvinSign : Char := '\u212a'

/-- The small ASCII letter that a character can stand for in a name; other
characters stand for themselves. -/
def asciiSmall (c : Char) : Char := if c = kelvinSign then 'k' else c.toLower

/-- A code point stays where it is, or is moved by a range that lists it. -/
theorem shiftOf_eq_zero_or (ranges : List CaseRange) (n : Nat) :
    shiftOf ranges n = 0
      ∨ ∃ range ∈ ranges, range.has n = true
        ∧ shiftOf ranges n = range.shift := by
  induction ranges with
  | nil => exact .inl rfl
  | cons range rest ih =>
      unfold shiftOf
      split
      · exact .inl rfl
      · split
        · next hhas => exact .inr ⟨range, List.mem_cons_self .., hhas, rfl⟩
        · rcases ih with hzero | ⟨other, hmem, hhas, hshift⟩
          · exact .inl hzero
          · exact .inr ⟨other, List.mem_cons_of_mem _ hmem, hhas, hshift⟩

/-- The ranges of capitals outside ASCII lead to characters outside ASCII,
but for the one that holds the Kelvin sign. -/
theorem capitals_beyond : ∀ range ∈ capitals, range.last < 128
    ∨ (range.first = kelvinSign.toNat ∧ range.last = kelvinSign.toNat)
    ∨ (128 ≤ range.first + range.shift
      ∧ (range.last + range.shift < 0xD800
        ∨ (0xDFFF < range.first + range.shift
          ∧ range.last + range.shift < 0x110000))) := by
  decide +kernel

/-- Outside ASCII, a listed capital other than the Kelvin sign has its small
letter outside ASCII. -/
theorem le_moved_capital {n : Nat} {range : CaseRange}
    (hmem : range ∈ capitals) (hhas : range.has n = true) (hbeyond : 128 ≤ n)
    (hkelvin : n ≠ kelvinSign.toNat) :
    128 ≤ (Char.ofNat (n + range.shift).toNat).toNat := by
  rw [CaseRange.has, Bool.and_eq_true, Bool.and_eq_true, decide_eq_true_eq,
    decide_eq_true_eq] at hhas
  obtain ⟨⟨hfirst, hlast⟩, -⟩ := hhas
  rcases capitals_beyond range hmem with
    hascii | ⟨hstart, hend⟩ | ⟨hlow, hvalid⟩
  · omega
  · omega
  · have hchar : (n + range.shift).toNat.isValidChar := by
      unfold Nat.isValidChar
      omega
    rw [Char.toNat_ofNat, if_pos hchar]
    omega

/-- Whatever is neither ASCII nor the Kelvin sign has something outside ASCII
in its lower case. -/
theorem exists_lowerChar_beyond {c : Char} (hbeyond : 128 ≤ c.toNat)
    (hkelvin : c ≠ kelvinSign) :
    ∃ small ∈ lowerChar c, 128 ≤ small.toNat := by
  unfold lowerChar
  split
  · exact ⟨'\u0307', by decide, by decide⟩
  · refine ⟨_, List.mem_singleton_self _, ?_⟩
    rcases shiftOf_eq_zero_or capitals c.toNat with
      hzero | ⟨range, hmem, hhas, hshift⟩
    · rw [hzero, Int.add_zero, Int.toNat_natCast, Char.ofNat_toNat]
      exact hbeyond
    · rw [hshift]
      refine le_moved_capital hmem hhas hbeyond fun hcode => hkelvin ?_
      rw [← Char.ofNat_toNat c, hcode, Char.ofNat_toNat]

theorem asciiSmall_of_beyond {c : Char} (hbeyond : 128 ≤ c.toNat)
    (hkelvin : c ≠ kelvinSign) :
    asciiSmall c = c := by
  rw [asciiSmall, if_neg hkelvin]
  exact (toLower_eq_self_or_ascii c).resolve_right (Nat.not_lt.mpr hbeyond)

/-- Any other character has the one small letter that it can stand for. -/
theorem lowerChar_eq_asciiSmall {c : Char}
    (h : c.toNat < 128 ∨ c = kelvinSign) :
    lowerChar c = [asciiSmall c] := by
  rcases h with hascii | rfl
  · have hkelvin : c ≠ kelvinSign := by
      rintro rfl
      exact absurd hascii (by decide)
    rw [lowerChar_of_ascii hascii, asciiSmall, if_neg hkelvin]
  · decide

/-- A text that folds to ASCII letters does so character by character. -/
theorem lowerEach_eq_iff_of_isAscii {text letters : List Char}
    (h : isAscii letters = true) :
    lowerEach text = letters ↔ text.map asciiSmall = letters := by
  induction text generalizing letters with
  | nil => rfl
  | cons c rest ih =>
      by_cases hc : c.toNat < 128 ∨ c = kelvinSign
      · rw [lowerEach, List.flatMap_cons, lowerChar_eq_asciiSmall hc,
          List.map_cons, List.singleton_append]
        cases letters with
        | nil =>
            exact iff_of_false (List.cons_ne_nil _ _) (List.cons_ne_nil _ _)
        | cons letter letters =>
            rw [isAscii, List.all_cons, Bool.and_eq_true] at h
            rw [List.cons.injEq, List.cons.injEq]
            exact and_congr_right fun _ => ih h.2
      · -- what such a character folds to, and what it stands for, is not ASCII
        rw [not_or, Nat.not_lt] at hc
        obtain ⟨small, hsmall, hbeyond⟩ := exists_lowerChar_beyond hc.1 hc.2
        have hascii : ∀ letter ∈ letters, letter.toNat < 128 := by
          simpa only [isAscii, List.all_eq_true, decide_eq_true_eq] using h
        refine iff_of_false ?_ ?_
        · rintro rfl
          have hlow := hascii small (List.mem_append_left _ hsmall)
          omega
        · rintro rfl
          have hlow := hascii (asciiSmall c) (List.mem_cons_self ..)
          rw [asciiSmall_of_beyond hc.1 hc.2] at hlow
          omega

theorem isAscii_lowerAscii (text : List Char) :
    isAscii (lowerAscii text) = isAscii text := by
  rw [isAscii, lowerAscii, List.all_map]
  congr 1
  funext c
  exact apply_toLower (f := fun c => decide (c.toNat < 128)) (by decide) c

end Text

-- ================================================================= names

variable {a b : String}

/-- Sameness of names is equality of what they fold to. -/
theorem sameName_equivalence :
    Equivalence fun a b : String => sameName a b = true := by
  simp only [sameName_iff]
  exact eq_equivalence.comap fun name : String => Text.lowerEach name.toList

/-- The names that are the same as one of ASCII characters have its letters,
in either case, and Kelvin signs for a `k`. -/
theorem sameName_ascii_iff (h : Text.isAscii a.toList = true) :
    sameName a b = true
      ↔ b.toList.map Text.asciiSmall = Text.lowerAscii a.toList := by
  have hfolded : Text.isAscii (Text.lowerAscii a.toList) = true := by
    rw [Text.isAscii_lowerAscii, h]
  rw [sameName_iff, Text.lowerEach_of_isAscii h, eq_comm,
    Text.lowerEach_eq_iff_of_isAscii hfolded]

theorem sameName_eq_false_iff :
    sameName a b = false
      ↔ Text.lowerEach a.toList ≠ Text.lowerEach b.toList := by
  rw [← Bool.not_eq_true, sameName_iff]

/-- Names are told apart if no two of them fold to the same. -/
theorem distinct_iff {names : List String} :
    Distinct names
      ↔ (names.map fun name => Text.lowerEach name.toList).Nodup := by
  rw [List.nodup_iff_pairwise_ne, List.pairwise_map]
  exact List.Pairwise.iff fun _ _ => sameName_eq_false_iff

/-- A look-up does not depend on the spelling. -/
theorem Schema.field?_congr (h : sameName a b = true) (schema : Schema) :
    schema.field? a = schema.field? b := by
  unfold Schema.field?
  congr 1
  funext field
  exact sameName_congr_right h field.name

/-- Names are the same if the lower cases of their characters spell the same,
which is an equivalence, within ASCII, outside, and between the two: the
spellings of an ASCII name outside ASCII are those with Kelvin signs in
place of a `k`. Look-ups go by the class of a name, and validation accepts a
schema if no class has two fields, in it or in a schema that lies within. -/
theorem equivalence_sameName :
    (∀ a b : String, sameName a b = true
        ↔ a.toList.flatMap Text.lowerChar = b.toList.flatMap Text.lowerChar)
      ∧ Equivalence (fun a b : String => sameName a b = true)
      ∧ (∀ a b : String, Text.isAscii a.toList = true →
        (sameName a b = true
          ↔ b.toList.map Text.asciiSmall = Text.lowerAscii a.toList))
      ∧ (∀ a b : String, sameName a b = true →
        ∀ schema : Schema, schema.field? a = schema.field? b)
      ∧ ∀ schema : Schema, schema.validate = .ok () ↔
        ∀ inner : Schema, inner.Within schema →
          (inner.fields.map fun field =>
            field.name.toList.flatMap Text.lowerChar).Nodup := by
  refine ⟨fun a b => sameName_iff, sameName_equivalence,
    fun a b => sameName_ascii_iff, fun a b => Schema.field?_congr,
    fun schema => ?_⟩
  rw [Schema.validate_eq_ok_iff, Schema.valid_iff_within]
  simp only [distinct_iff, List.map_map]
  rfl

/-- A letter, its capital and the Kelvin sign are the same in a name, and
find the same field. -/
theorem equivalence_sameName_kelvin :
    Text.isAscii "kelvin".toList = true ∧ sameName "kelvin" "Kelvin" = true
      ∧ sameName "kelvin" "\u212aELVIN" = true
      ∧ sameName "\u212aELVIN" "Kelvin" = true
      ∧ Schema.field? ⟨"Sky", [.scalar .float "Kelvin"]⟩ "\u212aELVIN"
        = some (.scalar .float "Kelvin") := by
  obtain ⟨-, hequivalence, hspelled, hfield, -⟩ := equivalence_sameName
  have hascii : Text.isAscii "kelvin".toList = true := by decide
  have hcapital : sameName "kelvin" "Kelvin" = true := by decide
  have hsign : sameName "kelvin" "\u212aELVIN" = true :=
    (hspelled _ _ hascii).mpr (by decide)
  have hboth : sameName "\u212aELVIN" "Kelvin" = true :=
    hequivalence.trans (hequivalence.symm hsign) hcapital
  refine ⟨hascii, hcapital, hsign, hboth, ?_⟩
  rw [hfield _ _ hboth]
  rfl

end RecordFilter
