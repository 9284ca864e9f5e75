/-
Delimiters and the literals of kinds whose literals have a grammar: truth
values, numbers and moments. A literal is cut if the delimiter occurs in it,
so the question is which characters occur in the literals of a kind, and
which of these a configuration refuses.

# Characters of literals

Truth values consist of letters (`Config.guards_of_word`), and numerals of
digits, signs, points and the letter of the power (`Number.guards_of_read?`).
For moments the readers are followed one by one: `Reader.Takes` says that
whatever a reader takes off the front of a text consists of certain
characters, which a sequence of readers inherits from its parts
(`Takes.bind`).

# Characters that nobody refuses

Letters, digits, blanks, hyphens and points are no delimiters. What remains
of the characters of literals is short: the plus sign, and of moments the
colon and the minus sign of typography as well (`LeafKind.unguarded`). They
are accepted as delimiters, and then cut the literals they occur in
(`LeafKind.exists_literal_of_unguarded`); all others leave every literal
whole (`Config.literals_whole_iff`).
-/
import RecordFilter.Proofs.Admission
import RecordFilter.Proofs.Folding
import RecordFilter.Proofs.Moments
import RecordFilter.Proofs.Tokens

namespace RecordFilter

-- =============================================================== readers

namespace Reader

variable {α β : Type} {reader : Reader α} {p : Char → Prop}

/-- All that a reader takes off the front of a text are characters with a
property. -/
def Takes (p : Char → Prop) (reader : Reader α) : Prop :=
  ∀ ⦃text a rest⦄, reader text = some (a, rest) →
    ∃ taken, text = taken ++ rest ∧ ∀ c ∈ taken, p c

/-- A reader that reads a whole text takes all of its characters. -/
theorem Takes.of_whole (h : Takes p reader) {text : List Char} {a : α}
    (hwhole : reader.whole text = some a) : ∀ c ∈ text, p c := by
  unfold whole at hwhole
  split at hwhole
  · next hread =>
    obtain ⟨taken, htext, htaken⟩ := h hread
    rw [List.append_nil] at htext
    exact htext ▸ htaken
  · cases hwhole

/-- Readers one after the other take what each of them takes. -/
theorem Takes.bind (h : Takes p reader) {next : α → Reader β}
    (hnext : ∀ a, Takes p (next a)) :
    Takes p (reader >>= next) := by
  intro text b rest hread
  -- a reader is a function from texts to an optional pair, run one by one
  change (reader text >>= fun q => next q.1 q.2) = some (b, rest) at hread
  obtain ⟨⟨a, middle⟩, hfirst, hsecond⟩ := Option.bind_eq_some_iff.mp hread
  obtain ⟨front, rfl, hfront⟩ := h hfirst
  obtain ⟨taken, rfl, htaken⟩ := hnext a hsecond
  exact ⟨front ++ taken, (List.append_assoc ..).symm,
    List.forall_mem_append.mpr ⟨hfront, htaken⟩⟩

/-- A character that was looked at is taken by going on behind it. -/
theorem Takes.set_cons (h : Takes p reader) {c : Char} (hc : p c)
    {text rest : List Char} {a : α}
    (hread : (set text >>= fun _ => reader : Reader α) (c :: text)
      = some (a, rest)) :
    ∃ taken, c :: text = taken ++ rest ∧ ∀ d ∈ taken, p d := by
  change reader text = some (a, rest) at hread
  obtain ⟨taken, rfl, htaken⟩ := h hread
  exact ⟨c :: taken, rfl, List.forall_mem_cons.mpr ⟨hc, htaken⟩⟩

theorem takes_pure (a : α) : Takes p (pure a) := by
  intro text b rest h
  cases h
  exact ⟨[], rfl, List.forall_mem_nil _⟩

/-- A value that is there or not takes no character, and neither does a
condition. -/
theorem takes_lift (a? : Option α) : Takes p (liftM a? : Reader α) := by
  intro text b rest h
  cases a? with
  | none => cases h
  | some a =>
      cases h
      exact ⟨[], rfl, List.forall_mem_nil _⟩

theorem takes_guard (condition : Prop) [Decidable condition] :
    Takes p (guard condition : Reader Unit) := by
  intro text a rest h
  by_cases hcondition : condition
  · rw [guard, if_pos hcondition] at h
    exact takes_pure () h
  · rw [guard, if_neg hcondition] at h
    cases h

/-- A reader of one character takes that character. -/
theorem takes_literal {c : Char} (hc : p c) : Takes p (literal c) := by
  intro text a rest h
  cases text with
  | nil => cases h
  | cons d text =>
      change (if d = c then some ((), text) else none) = some (a, rest) at h
      split at h
      · next hd =>
        cases h
        exact ⟨[d], rfl, List.forall_mem_singleton.mpr (hd ▸ hc)⟩
      · cases h

/-- A reader of one of some characters takes one of these. -/
theorem takes_oneOf {cs : List Char} (hcs : ∀ c ∈ cs, p c) :
    Takes p (oneOf cs) := by
  intro text a rest h
  cases text with
  | nil => cases h
  | cons d text =>
      change (if d ∈ cs then some (d, text) else none) = some (a, rest) at h
      split at h
      · next hd =>
        cases h
        exact ⟨[_], rfl, List.forall_mem_singleton.mpr (hcs _ hd)⟩
      · cases h

/-- Skipping blanks takes blanks. -/
theorem takes_blanks (hblank : ∀ c, Text.isBlank c = true → p c) :
    Takes p blanks := by
  intro text a rest h
  cases h
  refine ⟨text.takeWhile Text.isBlank, List.takeWhile_append_dropWhile.symm,
    fun c hc => ?_⟩
  exact hblank c (List.mem_takeWhile_imp hc)

/-- A field of digits takes digits, however wide it may be. -/
theorem takes_digits (hdigit : ∀ c, c.isDigit = true → p c)
    (least most : Nat) :
    Takes p (digits least most) := by
  intro text a rest h
  unfold digits at h
  dsimp only at h
  split at h
  · cases h
  · cases h
    have hfront : (text.take most).takeWhile Char.isDigit <+: text :=
      (List.takeWhile_prefix _).trans (List.take_prefix _ _)
    refine ⟨(text.take most).takeWhile Char.isDigit, ?_, fun c hc => ?_⟩
    · exact (List.prefix_iff_eq_append.mp hfront).symm
    · exact hdigit c (List.mem_takeWhile_imp hc)

theorem takes_allDigits (hdigit : ∀ c, c.isDigit = true → p c) :
    Takes p allDigits := by
  intro text a rest h
  unfold allDigits at h
  dsimp only at h
  split at h
  · cases h
  · cases h
    refine ⟨text.takeWhile Char.isDigit, List.takeWhile_append_dropWhile.symm,
      fun c hc => ?_⟩
    exact hdigit c (List.mem_takeWhile_imp hc)

end Reader

-- ========================================================== characters

namespace Config

/-- Characters that can be no delimiter, but for the given ones. -/
def Guards (unguarded : List Char) (c : Char) : Prop :=
  isDelimiter c = true → c ∈ unguarded

variable {chars : List Char} {c : Char}

instance : Decidable (Guards chars c) :=
  inferInstanceAs (Decidable (isDelimiter c = true → c ∈ chars))

/-- A character that no configuration accepts as its delimiter is guarded. -/
theorem guards_of_refused (h : isDelimiter c = false) : Guards chars c := by
  intro hdelimiter
  rw [h] at hdelimiter
  cases hdelimiter

/-- The characters of a list are guarded if a run through it finds no other. -/
theorem guards_of_all {cs : List Char}
    (h : (cs.all fun c => decide (Guards chars c)) = true) :
    ∀ c ∈ cs, Guards chars c :=
  fun c hc => of_decide_eq_true (List.all_eq_true.mp h c hc)

/-- Digits are no delimiters: letters and digits are refused. -/
theorem guards_digit (h : c.isDigit = true) : Guards chars c := by
  rw [Char.isDigit, Bool.and_eq_true, decide_eq_true_eq,
    decide_eq_true_eq] at h
  have hlow : 0x30 ≤ c.toNat := h.1
  have hhigh : c.toNat ≤ 0x39 := h.2
  have hfirst : Text.isAlphanumeric c = true := by
    -- the digits are the first of the ranges
    change (decide (0x30 ≤ c.toNat) && (decide (c.toNat ≤ 0x39) || _)) = true
    rw [decide_eq_true hlow, decide_eq_true hhigh]
    rfl
  refine guards_of_refused ?_
  rw [isDelimiter, hfirst]
  rfl

/-- Only what stands behind the digits in front of a text matters. -/
theorem guards_of_behind_digits {text : List Char}
    (h : ∀ c ∈ text.dropWhile Char.isDigit, Guards chars c) :
    ∀ c ∈ text, Guards chars c := by
  have hrun : ∀ c ∈ text.takeWhile Char.isDigit, Guards chars c :=
    fun c hc => guards_digit (List.mem_takeWhile_imp hc)
  have hparts := List.forall_mem_append.mpr ⟨hrun, h⟩
  rwa [List.takeWhile_append_dropWhile] at hparts

/-- Blanks are refused as well. -/
theorem guards_blank (h : Text.isBlank c = true) : Guards chars c := by
  refine guards_of_refused ?_
  rw [isDelimiter, h, Bool.or_true]
  rfl

/-- No delimiter is a letter in one case and not in the other. -/
theorem isDelimiter_toLower (c : Char) :
    isDelimiter c.toLower = isDelimiter c :=
  Text.apply_toLower (by decide +kernel) c

end Config

open Config
  (Guards guards_of_all guards_digit guards_of_behind_digits guards_blank)

-- ============================================================== numerals

namespace Numeral

variable {text : List Char}

/-- A natural numeral holds digits, and perhaps a plus sign in front. -/
theorem guards_of_natural? (h : (natural? text).isSome = true) :
    ∀ c ∈ text, Guards ['+'] c := by
  unfold natural? at h
  split at h
  · next hdigits =>
    exact fun c hc => guards_digit (List.all_eq_true.mp hdigits.2 c hc)
  · cases h

/-- A sign in front is a hyphen, or the one sign that is not guarded. -/
theorem guards_of_takeSign
    (h : ∀ c ∈ (Decimal.takeSign text).2, Guards ['+'] c) :
    ∀ c ∈ text, Guards ['+'] c := by
  unfold Decimal.takeSign at h
  split at h
  · exact List.forall_mem_cons.mpr ⟨by decide, h⟩
  · exact List.forall_mem_cons.mpr ⟨by decide, h⟩
  · exact h

/-- A natural number is read as often as it is read as an integer. -/
theorem isSome_cast (n? : Option Nat) :
    (do let n ← n?; pure (n : Int) : Option Int).isSome = n?.isSome := by
  cases n? <;> rfl

/-- The sign of a whole number is a hyphen, which is refused, or a plus
sign. -/
theorem guards_of_integer? (h : (integer? text).isSome = true) :
    ∀ c ∈ text, Guards ['+'] c := by
  unfold integer? at h
  split at h
  · rw [Option.isSome_map] at h
    exact List.forall_mem_cons.mpr ⟨by decide, guards_of_natural? h⟩
  · rw [Option.isSome_map, isSome_cast] at h
    exact List.forall_mem_cons.mpr ⟨by decide, guards_of_natural? h⟩
  · rw [Option.isSome_map] at h
    exact guards_of_natural? h

end Numeral

namespace Decimal

variable {text : List Char}

/-- A power of ten is a letter and a whole number. -/
theorem guards_of_exponent? (h : (exponent? text).isSome = true) :
    ∀ c ∈ text, Guards ['+'] c := by
  cases text with
  | nil => exact List.forall_mem_nil _
  | cons c rest =>
      rw [exponent?] at h
      split at h
      · next hletter =>
        rw [Option.isSome_map, Numeral.isSome_cast] at h
        have hdigits :=
          Numeral.guards_of_takeSign (Numeral.guards_of_natural? h)
        refine List.forall_mem_cons.mpr ⟨?_, hdigits⟩
        rcases hletter with rfl | rfl <;> decide
      · cases h

/-- The point before a fraction is refused too. -/
theorem guards_of_unsigned? {negative : Bool}
    (h : (unsigned? negative text).isSome = true) :
    ∀ c ∈ text, Guards ['+'] c := by
  refine guards_of_behind_digits ?_
  unfold unsigned? at h
  dsimp only at h
  -- with a point or without one, what ends the numeral is its power of ten
  split at h
  · next hpoint =>
    split at h
    · cases h
    · rw [Option.isSome_map] at h
      rw [hpoint]
      exact List.forall_mem_cons.mpr
        ⟨by decide, guards_of_behind_digits (guards_of_exponent? h)⟩
  · split at h
    · cases h
    · rw [Option.isSome_map] at h
      exact guards_of_exponent? h

/-- A decimal numeral holds no delimiter but a plus sign, in front or in its
power of ten. -/
theorem guards_of_read? (h : (read? text).isSome = true) :
    ∀ c ∈ text, Guards ['+'] c :=
  Numeral.guards_of_takeSign (guards_of_unsigned? h)

end Decimal

/-- The names of doubles are names of values that are not finite. -/
theorem Binary64.isFinite_of_named? {text : List Char} {x : Binary64}
    (h : named? text = some x) :
    x.isFinite = false := by
  unfold named? at h
  dsimp only at h
  split at h
  · cases h
    rfl
  · split at h
    · cases h
      rfl
    · cases h

/-- However a number is read, no character of it is a delimiter but plus
signs: the names of doubles are not read as numbers. -/
theorem Number.guards_of_read? {text : List Char}
    (h : (read? text).isSome = true) :
    ∀ c ∈ text, Guards ['+'] c := by
  obtain ⟨number, hread⟩ := Option.isSome_iff_exists.mp h
  unfold read? at hread
  rw [Option.or_eq_some_iff, Option.or_eq_some_iff] at hread
  rcases hread with hint | ⟨-, huint | ⟨-, hfloat⟩⟩
  · obtain ⟨_, hint64, -⟩ := Option.map_eq_some_iff.mp hint
    obtain ⟨n, hn, -⟩ := Option.bind_eq_some_iff.mp hint64
    exact Numeral.guards_of_integer? (Option.isSome_of_eq_some hn)
  · obtain ⟨_, huint64, -⟩ := Option.map_eq_some_iff.mp huint
    unfold Numeral.uint64? at huint64
    split at huint64
    · cases huint64
    · obtain ⟨n, hn, -⟩ := Option.bind_eq_some_iff.mp huint64
      exact Numeral.guards_of_integer? (Option.isSome_of_eq_some hn)
  · obtain ⟨x, hfinite, -⟩ := Option.map_eq_some_iff.mp hfloat
    obtain ⟨hdouble, hx⟩ := Option.filter_eq_some_iff.mp hfinite
    unfold Binary64.read? at hdouble
    rcases Option.or_eq_some_iff.mp hdouble with hnamed | ⟨-, hdecimal⟩
    · rw [Binary64.isFinite_of_named? hnamed] at hx
      cases hx
    · obtain ⟨decimal, hd, -⟩ := Option.map_eq_some_iff.mp hdecimal
      exact Decimal.guards_of_read? (Option.isSome_of_eq_some hd)

-- =============================================================== moments

namespace Calendar

open Reader

/-- The characters of moments that are not guarded. -/
def unguarded : List Char := ['+', ':', '\u2212']

/-- The fraction of a second is a point and digits. -/
theorem takes_fraction : Takes (Guards unguarded) fraction := by
  intro text a rest h
  unfold fraction at h
  split at h
  · next text =>
    obtain ⟨⟨run, behind⟩, hdigits, hq⟩ := Option.map_eq_some_iff.mp h
    cases hq
    obtain ⟨taken, rfl, htaken⟩ :=
      takes_allDigits (fun _ => guards_digit) hdigits
    exact ⟨'.' :: taken, rfl, List.forall_mem_cons.mpr ⟨by decide, htaken⟩⟩
  · cases h
    exact ⟨[], rfl, List.forall_mem_nil _⟩

theorem takes_hyphen : Takes (Guards unguarded) (literal '-') :=
  takes_literal (by decide)

theorem takes_colon : Takes (Guards unguarded) (literal ':') :=
  takes_literal (by decide)

theorem takes_field (least most : Nat) :
    Takes (Guards unguarded) (Reader.digits least most) :=
  takes_digits (fun _ => guards_digit) least most

theorem takes_twoWide : Takes (Guards unguarded) (Reader.digits 2 2) :=
  takes_field 2 2

namespace Internet

/-- An offset has a sign, two fields and perhaps a colon between them; one of
the signs is beyond ASCII. -/
theorem takes_offset : Takes (Guards unguarded) offset := by
  refine (takes_oneOf (guards_of_all (by decide +kernel))).bind fun sign => ?_
  by_cases hz : sign = 'Z' ∨ sign = 'z'
  · rw [if_pos hz]
    exact takes_pure 0
  · rw [if_neg hz]
    refine takes_twoWide.bind fun hours => takes_colon.bind fun _ => ?_
    exact takes_twoWide.bind fun minutes => (takes_guard _).bind fun _ =>
      takes_pure _

/-- A clock has fields of digits with colons between them. -/
theorem takes_moment : Takes (Guards unguarded) moment := by
  refine (takes_field 4 4).bind fun year => takes_hyphen.bind fun _ => ?_
  refine takes_twoWide.bind fun month => takes_hyphen.bind fun _ => ?_
  refine takes_twoWide.bind fun day => ?_
  refine (takes_oneOf (guards_of_all (by decide +kernel))).bind fun _ => ?_
  refine takes_twoWide.bind fun hour => ?_
  refine takes_colon.bind fun _ => takes_twoWide.bind fun minute =>
    takes_colon.bind fun _ => ?_
  refine takes_twoWide.bind fun second =>
    takes_fraction.bind fun nanosecond => ?_
  refine takes_offset.bind fun minutes => (takes_lift _).bind fun date => ?_
  exact (takes_lift _).bind fun wall => takes_lift _

end Internet

namespace Local

theorem takes_twoDigits : Takes (Guards unguarded) twoDigits :=
  (takes_blanks fun _ => guards_blank).bind fun _ => takes_field 1 2

/-- A year is a run of digits with a sign in front, or none. -/
theorem takes_year : Takes (Guards unguarded) year := by
  have hsigned : Takes (Guards unguarded) allDigits :=
    takes_allDigits fun _ => guards_digit
  refine (takes_blanks fun _ => guards_blank).bind fun _ text a rest h => ?_
  rw [get_bind] at h
  split at h
  · exact (hsigned.bind fun _ => takes_pure _).set_cons (by decide) h
  · exact (hsigned.bind fun _ => takes_pure _).set_cons (by decide) h
  · exact (takes_field 1 4).bind (fun _ => takes_pure _) h

theorem takes_date : Takes (Guards unguarded) date := by
  refine takes_year.bind fun year => takes_hyphen.bind fun _ =>
    takes_twoDigits.bind fun month => ?_
  exact takes_hyphen.bind fun _ => takes_twoDigits.bind fun day => takes_lift _

theorem takes_seconds : Takes (Guards unguarded) seconds := by
  refine takes_colon.bind fun _ => takes_twoDigits.bind fun second => ?_
  exact takes_fraction.bind fun nanosecond => takes_pure _

theorem takes_moment {separator : Reader Unit} {ending : Reader (Nat × Nat)}
    (hseparator : Takes (Guards unguarded) separator)
    (hending : Takes (Guards unguarded) ending) :
    Takes (Guards unguarded) (moment separator ending) := by
  refine takes_date.bind fun date => hseparator.bind fun _ =>
    takes_twoDigits.bind fun hour => ?_
  refine takes_colon.bind fun _ => takes_twoDigits.bind fun minute => ?_
  exact hending.bind fun _ => takes_lift _

/-- Each of the accepted forms takes nothing else than its characters. -/
theorem takes_of_mem_moments {reader : Reader Moment} (h : reader ∈ moments) :
    Takes (Guards unguarded) reader := by
  have hT : Takes (Guards unguarded) (literal 'T') := takes_literal (by decide)
  have hblanks : Takes (Guards unguarded) blanks :=
    takes_blanks fun _ => guards_blank
  have hnone : Takes (Guards unguarded) noSeconds := takes_pure _
  rw [moments] at h
  simp only [List.mem_cons, List.not_mem_nil, or_false] at h
  rcases h with rfl | rfl | rfl | rfl
  · exact takes_moment hT takes_seconds
  · exact takes_moment hblanks takes_seconds
  · exact takes_moment hT hnone
  · exact takes_moment hblanks hnone

end Local

/-- A text that is read as a moment holds only guarded characters and the three
that nobody refuses. -/
theorem Moment.guards_of_read? {text : List Char}
    (h : (read? text).isSome = true) :
    ∀ c ∈ text, Guards unguarded c := by
  obtain ⟨m, hread⟩ := Option.isSome_iff_exists.mp h
  unfold read? at hread
  rw [Option.or_eq_some_iff, Option.or_eq_some_iff] at hread
  rcases hread with hinternet | ⟨-, hlocal | ⟨-, hday⟩⟩
  · exact Internet.takes_moment.of_whole hinternet
  · obtain ⟨reader, hreader, hwhole⟩ := List.exists_of_findSome?_eq_some hlocal
    exact (Local.takes_of_mem_moments hreader).of_whole hwhole
  · obtain ⟨date, hdate, -⟩ := Option.map_eq_some_iff.mp hday
    exact Local.takes_date.of_whole hdate

end Calendar

-- ================================================================= kinds

/-- A word in any case consists of letters if it does in one case. -/
theorem Config.guards_of_word {chars : List Char} {literal word : String}
    (hword : (Text.lowerAscii word.toList).any isDelimiter = false)
    (h : Text.sameIgnoringAsciiCase literal word = true) :
    ∀ c ∈ literal.toList, Guards chars c := by
  intro c hc
  have hlower : c.toLower ∈ Text.lowerAscii literal.toList :=
    List.mem_map_of_mem hc
  rw [Text.sameIgnoringAsciiCase_iff.mp h] at hlower
  refine guards_of_refused ?_
  rw [← isDelimiter_toLower]
  exact Bool.eq_false_iff.mpr (List.any_eq_false.mp hword _ hlower)

namespace LeafKind

/-- Kinds whose literals have a grammar; every token is a text, a variant of
an open enumeration or an opaque value. -/
def hasGrammar : LeafKind → Bool
  | bool | int | uint | float | dateTime => true
  | enum _ | text | other => false

/-- The characters of literals of a kind that can be delimiters. -/
def unguarded : LeafKind → List Char
  | int | uint | float => ['+']
  | dateTime => Calendar.unguarded
  | bool | enum _ | text | other => []

variable {kind : LeafKind} {literal : String}

/-- A literal that suits a kind holds only guarded characters, and those of the
kind that nobody refuses. -/
theorem guards_of_objection? (hkind : kind.hasGrammar = true)
    (h : kind.objection? literal = none) :
    ∀ c ∈ literal.toList, Guards kind.unguarded c := by
  unfold objection? at h
  cases kind with
  | bool =>
      dsimp only at h
      split at h
      · next hword =>
        rcases (Bool.or_eq_true ..).mp hword with htrue | hfalse
        · exact Config.guards_of_word (by decide +kernel) htrue
        · exact Config.guards_of_word (by decide +kernel) hfalse
      · cases h
  | int | uint | float =>
      dsimp only at h
      split at h
      · next hread => exact Number.guards_of_read? hread
      · cases h
  | dateTime =>
      dsimp only at h
      split at h
      · next hread => exact Calendar.Moment.guards_of_read? hread
      · cases h
  | enum _ | text | other => cases hkind

/-- Every character that is not guarded stands in some literal. -/
theorem exists_literal_of_unguarded {c : Char} (h : c ∈ kind.unguarded) :
    ∃ literal, kind.objection? literal = none ∧ c ∈ literal.toList := by
  cases kind with
  | int | uint | float =>
      rw [List.mem_singleton.mp h]
      exact ⟨"+5", by decide +kernel, by decide⟩
  | dateTime =>
      simp only [unguarded, Calendar.unguarded, List.mem_cons,
        List.not_mem_nil, or_false] at h
      rcases h with rfl | rfl | rfl
      · exact ⟨"2021-03-04T05:06:07+02:00", by decide +kernel, by decide⟩
      · exact ⟨"2021-03-04T05:06", by decide +kernel, by decide⟩
      · exact ⟨"2021-03-04T05:06:07\u221202:00", by decide +kernel, by decide⟩
  | bool | enum _ | text | other => cases h

end LeafKind

-- ================================================================ whole

namespace Config

variable {config : Config} {kind : LeafKind}

/-- A literal without delimiters is one token. -/
theorem tokens_eq_singleton {literal : String}
    (h : config.delimiter ∉ literal.toList) (name : String) :
    Expression.tokens config ⟨name, [literal]⟩
      = [config.token literal.toList] := by
  rw [Expression.tokens_eq_flatMap, List.flatMap_singleton, tokens,
    List.splitOn_eq_singleton h, List.map_singleton]

/-- Every literal of a kind that has a grammar is one token, unless the
delimiter is one of the characters that nobody refuses. -/
theorem literals_whole_iff (hvalid : config.isValid = true)
    (hkind : kind.hasGrammar = true) :
    (∀ literal : String, kind.objection? literal = none →
        config.delimiter ∉ literal.toList
          ∧ ∀ name, Expression.tokens config ⟨name, [literal]⟩
            = [config.token literal.toList])
      ↔ config.delimiter ∉ kind.unguarded := by
  constructor
  · intro hwhole hmem
    obtain ⟨literal, hliteral, hcut⟩ :=
      LeafKind.exists_literal_of_unguarded hmem
    exact (hwhole literal hliteral).1 hcut
  · intro hmem literal hliteral
    have hfree : config.delimiter ∉ literal.toList := fun hc =>
      hmem (LeafKind.guards_of_objection? hkind hliteral _ hc hvalid)
    exact ⟨hfree, tokens_eq_singleton hfree⟩

/-- A semicolon leaves a moment whole. -/
theorem literals_whole_semicolon :
    (⟨[], ';', false⟩ : Config).isValid = true
      ∧ LeafKind.dateTime.hasGrammar = true
      ∧ LeafKind.dateTime.objection? "2021-03-04T05:06:07+02:00" = none
      ∧ Expression.tokens ⟨[], ';', false⟩
        ⟨"at", ["2021-03-04T05:06:07+02:00"]⟩
        = ["2021-03-04T05:06:07+02:00"] := by
  have hvalid : (⟨[], ';', false⟩ : Config).isValid = true := by decide +kernel
  have hliteral :
      LeafKind.dateTime.objection? "2021-03-04T05:06:07+02:00" = none := by
    decide +kernel
  have hkind : LeafKind.dateTime.hasGrammar = true := rfl
  have hwhole := (literals_whole_iff hvalid hkind).mpr (by decide)
  exact ⟨hvalid, hkind, hliteral, (hwhole _ hliteral).2 "at"⟩

/-- Plus signs and colons are accepted, and cut the sign off a number and a
time of day in two. -/
theorem literals_cut :
    ((⟨[], '+', false⟩ : Config).isValid = true
        ∧ LeafKind.int.objection? "+5" = none
        ∧ Expression.tokens ⟨[], '+', false⟩ ⟨"x", ["+5"]⟩ = ["", "5"])
      ∧ (⟨[], ':', false⟩ : Config).isValid = true
        ∧ LeafKind.dateTime.objection? "2021-03-04T05:06" = none
        ∧ Expression.tokens ⟨[], ':', false⟩ ⟨"at", ["2021-03-04T05:06"]⟩
          = ["2021-03-04T05", "06"] := by
  decide +kernel

end Config

end RecordFilter
