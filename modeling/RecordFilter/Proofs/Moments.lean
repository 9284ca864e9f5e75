/-
The text of a moment is read as that moment. Every form begins with the
same fields, so that what has to be shown is what each field takes off the
front of the text: `Reader.bind_eq` goes through the fields one by one, and
`Reader.digits_padded` says that a field of the written width takes its own
digits and no others.

# Which form reads the text

The Internet form comes first, and takes no text of a moment: a year with a
sign is not four digits, and where it takes the whole text otherwise it
still asks for an offset behind it (`Moment.internet_text`). The local form
that is tried next is the one the text is written in, and so it decides
(`Moment.local_text`). Three parts of it have more than one spelling. A year
with a sign goes on to the next hyphen, however many digits it has; a
fraction is filled with zeros to nine digits, whether it was written with
three, six or nine; and second 60 is what a leap second is called.
-/
import RecordFilter.Value

namespace RecordFilter

variable {width n : Nat} {text rest : List Char}

-- ================================================================ digits

namespace Numeral

/-- Digits that fit a width are padded to it. -/
theorem length_padded (hwidth : 0 < width) (h : n < 10 ^ width) :
    (padded width n).length = width := by
  have hlength : (digits n).length ≤ width :=
    (Nat.length_toDigits_le_iff (by decide) hwidth).mpr h
  rw [padded, List.length_append, List.length_replicate]
  omega

/-- What pads digits are digits, too. -/
theorem isDigit_of_mem_padded {c : Char} (h : c ∈ padded width n) :
    c.isDigit = true := by
  rw [padded, List.mem_append] at h
  rcases h with h | h
  · rw [List.eq_of_mem_replicate h]
    rfl
  · exact isDigit_of_mem_digits h

/-- The zeros in front change nothing. -/
theorem value_padded : value (padded width n) = n := by
  rw [padded, value, Nat.ofDigitChars_append, Nat.ofDigitChars_replicate_zero,
    Nat.mul_zero]
  exact value_digits n

theorem padded_ne_nil : padded width n ≠ [] :=
  List.append_ne_nil_of_right_ne_nil _ (digits_ne_nil n)

/-- Padded digits begin with a digit. -/
theorem exists_padded_eq_cons (width n : Nat) :
    ∃ c run, padded width n = c :: run ∧ c.isDigit = true := by
  obtain ⟨c, run, hpadded⟩ : ∃ c run, padded width n = c :: run :=
    List.exists_cons_of_ne_nil padded_ne_nil
  have hmem : c ∈ padded width n := hpadded ▸ List.mem_cons_self ..
  exact ⟨c, run, hpadded, isDigit_of_mem_padded hmem⟩

/-- Each zero behind digits multiplies by ten. -/
theorem value_append_zeros (run : List Char) (k : Nat) :
    value (run ++ List.replicate k '0') = 10 ^ k * value run := by
  rw [value, Nat.ofDigitChars_append, Nat.ofDigitChars_replicate_zero, value]

end Numeral

open Numeral

/-- No digit is skipped for a blank. -/
theorem Text.isBlank_of_isDigit {c : Char} (h : c.isDigit = true) :
    Text.isBlank c = false := by
  rw [Char.isDigit, Bool.and_eq_true, decide_eq_true_eq,
    decide_eq_true_eq] at h
  have hlow : 48 ≤ c.toNat := h.1
  have hhigh : c.toNat ≤ 57 := h.2
  simp only [Text.isBlank, Bool.or_eq_false_iff, Bool.and_eq_false_iff,
    decide_eq_false_iff_not, beq_eq_false_iff_ne]
  omega

-- =============================================================== readers

namespace Reader

variable {α β : Type} {reader : Reader α} {a : α}

/-- A sequence of readers goes on with what the first one left. -/
theorem bind_eq (h : reader text = some (a, rest)) (next : α → Reader β) :
    (reader >>= next) text = next a rest := by
  change (reader text >>= fun p => next p.1 p.2) = next a rest
  rw [h]
  rfl

/-- A sequence of readers fails with the first one. -/
theorem bind_none (h : reader text = none) (next : α → Reader β) :
    (reader >>= next) text = none := by
  change (reader text >>= fun p => next p.1 p.2) = none
  rw [h]
  rfl

/-- The text that is left can be looked at. -/
theorem get_bind (next : List Char → Reader β) :
    (get >>= next : Reader β) text = next text text :=
  rfl

/-- A value that is there is handed on, with nothing read. -/
theorem lift_eq {a? : Option α} (h : a? = some a) (text : List Char) :
    (liftM a? : Reader α) text = some (a, text) := by
  rw [h]
  rfl

theorem literal_cons (c : Char) (rest : List Char) :
    literal c (c :: rest) = some ((), rest) :=
  if_pos rfl

theorem oneOf_cons {c : Char} {cs : List Char} (h : c ∈ cs)
    (rest : List Char) :
    oneOf cs (c :: rest) = some (c, rest) :=
  if_pos h

/-- A field as wide as a run of digits takes the run, whatever follows it. -/
theorem digits_append {least : Nat} {run : List Char}
    (hrun : ∀ c ∈ run, c.isDigit = true) (hleast : least ≤ run.length) :
    digits least run.length (run ++ rest) = some (value run, rest) := by
  have hfront :
      ((run ++ rest).take run.length).takeWhile Char.isDigit = run := by
    have hself : (run ++ []).takeWhile Char.isDigit = run ++ [] :=
      List.takeWhile_append_of_pos hrun
    rw [List.take_left]
    rwa [List.append_nil] at hself
  rw [digits, hfront, if_neg (Nat.not_lt.mpr hleast), List.drop_left]

/-- A field of fixed width takes the digits that were padded to it. -/
theorem digits_padded {least : Nat} (hleast : least ≤ width)
    (hwidth : 0 < width) (h : n < 10 ^ width) :
    digits least width (padded width n ++ rest) = some (n, rest) := by
  have hlength := length_padded hwidth h
  have hdigits : digits least (padded width n).length (padded width n ++ rest)
      = some (value (padded width n), rest) :=
    digits_append (fun c => isDigit_of_mem_padded) (hlength.symm ▸ hleast)
  rwa [hlength, value_padded] at hdigits

/-- A field of digits is not read where something else stands. -/
theorem digits_eq_none {least most : Nat} {c : Char} (hc : c.isDigit = false)
    (hleast : 0 < least) : digits least most (c :: rest) = none := by
  have hfront : ((c :: rest).take most).takeWhile Char.isDigit = [] := by
    cases most with
    | zero => rfl
    | succ most => rw [List.take_succ_cons, List.takeWhile_cons, hc]; rfl
  rw [digits, hfront]
  exact if_pos hleast

/-- A run of digits ends where something else begins. -/
theorem allDigits_padded (hrest : rest.takeWhile Char.isDigit = []) :
    allDigits (padded width n ++ rest) = some (padded width n, rest) := by
  have hall : ∀ c ∈ padded width n, c.isDigit = true :=
    fun c => isDigit_of_mem_padded
  have hbehind : rest.dropWhile Char.isDigit = rest := by
    have hwhole :=
      List.takeWhile_append_dropWhile (p := Char.isDigit) (l := rest)
    rwa [hrest, List.nil_append] at hwhole
  rw [allDigits, List.takeWhile_append_of_pos hall,
    List.dropWhile_append_of_pos hall, hrest, List.append_nil, hbehind,
    if_neg padded_ne_nil]

theorem blanks_cons {c : Char} (h : Text.isBlank c = false)
    (rest : List Char) :
    blanks (c :: rest) = some ((), c :: rest) := by
  rw [blanks, Text.dropBlanks, List.dropWhile_cons_of_neg]
  rw [h]
  exact Bool.false_ne_true

/-- Where digits stand, there are no blanks to skip. -/
theorem blanks_padded :
    blanks (padded width n ++ rest) = some ((), padded width n ++ rest) := by
  obtain ⟨c, run, hpadded, hc⟩ := exists_padded_eq_cons width n
  rw [hpadded, List.cons_append]
  exact blanks_cons (Text.isBlank_of_isDigit hc) _

end Reader

namespace Calendar

open Reader

-- =================================================================== days

/-- A month fits two digits. -/
theorem Date.month_lt (d : Date) : d.month < 100 := by
  have := d.month_mem
  omega

/-- A day fits two digits. -/
theorem Date.day_lt (d : Date) : d.day < 100 := by
  have := d.day_mem.2
  have := daysInMonth_le d.year d.month
  omega

/-- A year is written with four digits or with a sign. -/
theorem yearText_cases (y : Int) :
    y.natAbs < 10000 ∧ yearText y = padded 4 y.natAbs
      ∨ ∃ sign, sign.isDigit = false
        ∧ yearText y = sign :: padded 4 y.natAbs := by
  unfold yearText
  split
  · exact Or.inr ⟨_, rfl, rfl⟩
  · split
    · exact Or.inr ⟨_, rfl, rfl⟩
    · exact Or.inl ⟨by omega, rfl⟩

namespace Local

theorem twoDigits_padded (h : n < 100) :
    twoDigits (padded 2 n ++ rest) = some (n, rest) := by
  rw [twoDigits, bind_eq blanks_padded]
  exact digits_padded (by decide) (by decide) h

section Year

variable {run : List Char}

/-- A year below zero is written with a hyphen, which is its sign here. -/
theorem year_minus (h : allDigits text = some (run, rest)) :
    year ('-' :: text) = some (-(value run : Int), rest) := by
  rw [year, bind_eq (blanks_cons (by decide) _)]
  change (allDigits >>= fun run => pure (-(value run : Int))) text = _
  rw [bind_eq h]
  rfl

/-- A year of more than four digits is written with a plus sign. -/
theorem year_plus (h : allDigits text = some (run, rest)) :
    year ('+' :: text) = some ((value run : Int), rest) := by
  rw [year, bind_eq (blanks_cons (by decide) _)]
  change (allDigits >>= fun run => pure (value run : Int)) text = _
  rw [bind_eq h]
  rfl

/-- Without a sign, a year has four digits at most. -/
theorem year_digits {c : Char} (hc : c.isDigit = true)
    (h : Reader.digits 1 4 (c :: text) = some (n, rest)) :
    year (c :: text) = some ((n : Int), rest) := by
  rw [year, bind_eq (blanks_cons (Text.isBlank_of_isDigit hc) _), get_bind]
  generalize htext : c :: text = whole at h ⊢
  split
  · cases htext
    exact absurd hc (by decide)
  · cases htext
    exact absurd hc (by decide)
  · rw [bind_eq h]
    rfl

end Year

/-- A year is read as far as the hyphen behind it. -/
theorem year_yearText (y : Int) (rest : List Char) :
    year (yearText y ++ '-' :: rest) = some (y, '-' :: rest) := by
  have hall : allDigits (padded 4 y.natAbs ++ '-' :: rest)
      = some (padded 4 y.natAbs, '-' :: rest) :=
    allDigits_padded (List.takeWhile_cons_of_neg (by decide))
  rw [yearText]
  split
  · next hnegative =>
    have hvalue : -(y.natAbs : Int) = y := by omega
    rw [List.cons_append, year_minus hall, value_padded, hvalue]
  · next hnonnegative =>
    have hvalue : (y.natAbs : Int) = y := by omega
    split
    · rw [List.cons_append, year_plus hall, value_padded, hvalue]
    · have hyear : y.natAbs < 10000 := by omega
      have hfour : Reader.digits 1 4 (padded 4 y.natAbs ++ '-' :: rest)
          = some (y.natAbs, '-' :: rest) :=
        digits_padded (by decide) (by decide) hyear
      obtain ⟨c, run, hpadded, hc⟩ := exists_padded_eq_cons 4 y.natAbs
      rw [hpadded, List.cons_append] at hfour ⊢
      rw [year_digits hc hfour, hvalue]

/-- A day is read as far as the text goes on. -/
theorem date_text (d : Date) (rest : List Char) :
    date (d.text ++ rest) = some (d, rest) := by
  rw [Date.text, List.append_assoc, List.append_assoc, List.cons_append,
    List.cons_append, date, bind_eq (year_yearText _ _),
    bind_eq (literal_cons _ _), bind_eq (twoDigits_padded d.month_lt),
    bind_eq (literal_cons _ _), bind_eq (twoDigits_padded d.day_lt)]
  exact lift_eq d.of?_self rest

end Local

-- ================================================================ seconds

/-- A group of digits behind the point, filled with zeros to nine, is the
number of nanoseconds it was cut from. -/
theorem fraction_padded (places : Nat) (hplaces : 0 < places)
    (hnine : places ≤ 9) (hn : n < 10 ^ 9) (h : n % 10 ^ (9 - places) = 0) :
    fraction ('.' :: padded places (n / 10 ^ (9 - places)))
      = some (n, []) := by
  have hsplit : 10 ^ (9 - places) * 10 ^ places = 10 ^ 9 := by
    rw [← Nat.pow_add, Nat.sub_add_cancel hnine]
  have hlt : n / 10 ^ (9 - places) < 10 ^ places :=
    Nat.div_lt_of_lt_mul (hsplit ▸ hn)
  have hall : allDigits (padded places (n / 10 ^ (9 - places)) ++ [])
      = some (_, []) :=
    allDigits_padded rfl
  have hfilled :
      (padded places (n / 10 ^ (9 - places)) ++ List.replicate 9 '0').take 9
        = padded places (n / 10 ^ (9 - places))
          ++ List.replicate (9 - places) '0' := by
    rw [List.take_append, length_padded hplaces hlt, List.take_of_length_le,
      List.take_replicate, Nat.min_eq_left (Nat.sub_le _ _)]
    rw [length_padded hplaces hlt]
    exact hnine
  rw [List.append_nil] at hall
  rw [fraction, hall, Option.map_some]
  dsimp only
  rw [hfilled, value_append_zeros, value_padded,
    Nat.mul_div_cancel' (Nat.dvd_of_mod_eq_zero h)]

/-- However many digits a fraction was written with, it is read in full. -/
theorem fraction_fractionText (h : n < 1000000000) :
    fraction (fractionText n) = some (n, []) := by
  rw [fractionText]
  split
  · next hzero =>
    rw [hzero]
    rfl
  · split
    · next hmillis => exact fraction_padded 3 (by decide) (by decide) h hmillis
    · split
      · next hmicros =>
        exact fraction_padded 6 (by decide) (by decide) h hmicros
      · have hnanos :=
          fraction_padded 9 (by decide) (by decide) h (Nat.mod_one n)
        rwa [Nat.sub_self, Nat.pow_zero, Nat.div_one] at hnanos

namespace Moment

variable (m : Moment)

theorem hour_lt_hundred : m.hour < 100 := Nat.lt_trans m.hour_lt (by decide)

theorem minute_lt_hundred : m.minute < 100 :=
  Nat.lt_trans m.minute_lt (by decide)

/-- The nanoseconds behind the point, which begin anew in a leap second, fit
nine digits. -/
theorem fraction_lt : m.nanosecond % 1000000000 < 1000000000 :=
  Nat.mod_lt _ (by decide)

/-- The second of the clock at a moment, which is 60 in a leap second. -/
theorem clock_lt : m.second + m.nanosecond / 1000000000 < 100 := by
  have := m.second_lt
  have := m.nanosecond_lt
  omega

/-- A leap second is put back into the nanoseconds. -/
theorem atClock?_self :
    atClock? m.date m.hour m.minute (m.second + m.nanosecond / 1000000000)
      (m.nanosecond % 1000000000) = some m := by
  have hsecond := m.second_lt
  have hnanosecond := m.nanosecond_lt
  by_cases hleap : m.nanosecond < 1000000000
  · rw [Nat.div_eq_of_lt hleap, Nat.mod_eq_of_lt hleap, Nat.add_zero, atClock?,
      if_neg (by omega)]
    exact m.of?_self
  · have hlast : m.second = 59 := by omega
    have hsixty : m.second + m.nanosecond / 1000000000 = 60 := by omega
    have hwhole : 1000000000 + m.nanosecond % 1000000000 = m.nanosecond := by
      omega
    rw [hsixty, atClock?, if_pos rfl, hwhole, ← hlast]
    exact m.of?_self

-- ================================================================== forms

/-- The text of a moment as its fields, in the order in which they are read. -/
theorem text_eq :
    m.text
      = m.date.text ++ 'T' :: (padded 2 m.hour
        ++ ':' :: (padded 2 m.minute
        ++ ':' :: (padded 2 (m.second + m.nanosecond / 1000000000)
        ++ fractionText (m.nanosecond % 1000000000)))) := by
  simp only [text, List.append_assoc, List.cons_append]

/-- The form in which moments are written. -/
theorem local_text :
    Local.moment (literal 'T') Local.seconds m.text = some (m, []) := by
  have hseconds :
      Local.seconds (':' :: (padded 2 (m.second + m.nanosecond / 1000000000)
        ++ fractionText (m.nanosecond % 1000000000)))
        = some ((m.second + m.nanosecond / 1000000000,
          m.nanosecond % 1000000000), []) := by
    rw [Local.seconds, bind_eq (literal_cons _ _),
      bind_eq (Local.twoDigits_padded m.clock_lt),
      bind_eq (fraction_fractionText m.fraction_lt)]
    rfl
  rw [text_eq, Local.moment, bind_eq (Local.date_text _ _),
    bind_eq (literal_cons _ _),
    bind_eq (Local.twoDigits_padded m.hour_lt_hundred),
    bind_eq (literal_cons _ _),
    bind_eq (Local.twoDigits_padded m.minute_lt_hundred), bind_eq hseconds]
  exact lift_eq m.atClock?_self []

/-- The Internet form misses four digits at the front or an offset at the
end. -/
theorem internet_text : Internet.moment m.text = none := by
  have htwo {n : Nat} {rest : List Char} (h : n < 100) :
      Reader.digits 2 2 (padded 2 n ++ rest) = some (n, rest) :=
    digits_padded (by decide) (by decide) h
  rw [text_eq, Date.text, Internet.moment]
  rcases yearText_cases m.date.year with
    ⟨hyear, hyearText⟩ | ⟨sign, hsign, hyearText⟩
  · have hfour {rest : List Char} :
        Reader.digits 4 4 (padded 4 m.date.year.natAbs ++ rest)
          = some (m.date.year.natAbs, rest) :=
      digits_padded (by decide) (by decide) hyear
    simp only [hyearText, List.append_assoc, List.cons_append]
    rw [bind_eq hfour, bind_eq (literal_cons _ _),
      bind_eq (htwo m.date.month_lt), bind_eq (literal_cons _ _),
      bind_eq (htwo m.date.day_lt),
      bind_eq (oneOf_cons (List.mem_cons_self ..) _),
      bind_eq (htwo m.hour_lt_hundred), bind_eq (literal_cons _ _),
      bind_eq (htwo m.minute_lt_hundred), bind_eq (literal_cons _ _),
      bind_eq (htwo m.clock_lt), bind_eq (fraction_fractionText m.fraction_lt)]
    -- nothing is left for the offset
    exact bind_none rfl _
  · simp only [hyearText, List.cons_append]
    exact bind_none (digits_eq_none hsign (by decide)) _

/-- The text of a moment is read as that moment, in years with a sign and in
leap seconds too. The Internet form, which is tried first, does not take
it; the first of the local forms takes it all. -/
theorem read?_render :
    whole Internet.moment (Value.dateTime m).render.toList = none
      ∧ whole (Local.moment (literal 'T') Local.seconds)
        (Value.dateTime m).render.toList = some m
      ∧ read? (Value.dateTime m).render.toList = some m := by
  have htext : (Value.dateTime m).render.toList = m.text :=
    String.toList_ofList
  have hinternet : whole Internet.moment m.text = none := by
    rw [whole, m.internet_text]
  have hlocal : whole (Local.moment (literal 'T') Local.seconds) m.text
      = some m := by
    rw [whole, m.local_text]
  rw [htext]
  refine ⟨hinternet, hlocal, ?_⟩
  rw [read?, hinternet, Option.none_or, Local.moments, List.findSome?_cons,
    hlocal]
  rfl

end Moment

end Calendar

end RecordFilter
