/-
Query strings read back. A writer that puts every byte of a name and of a
value as `%XX` leaves nothing in them that means anything to a reader: what
it writes between the separators is percent signs and digits alone
(`mem_written`). So the reader cuts where the writer joined, and finds the
bytes of each part, which are UTF-8 and hence its text.

Nothing is asked of the pairs. A name may be empty, may come again, and may
hold whatever the syntax is made of, a question mark in front included.
-/
import RecordFilter.Proofs.Utf8
import RecordFilter.QueryString

namespace RecordFilter.QueryString

open Text.Utf8 (encode decode_encode encode_append encode_ascii)

-- ================================================================ digits

/-- The digit that is written for half a byte. -/
def digit (n : Nat) : Char := (Nat.digitChar n).toUpper

theorem digit_ascii : ∀ n < 16, (digit n).toNat ≤ 127 := by decide

/-- A hexadecimal digit that was written is read. -/
theorem hexDigit?_digit :
    ∀ n < 16, hexDigit? (byte (digit n)) = some n := by decide

/-- Either half of a byte is one digit. -/
theorem half_lt (b : UInt8) : b.toNat / 16 < 16 ∧ b.toNat % 16 < 16 := by
  have hbyte : b.toNat < 256 := b.toNat_lt
  omega

/-- A byte is written as three. -/
theorem encode_percentEncode (b : UInt8) (rest : List Char) :
    encode (percentEncode b ++ rest)
      = byte '%' :: byte (digit (b.toNat / 16)) :: byte (digit (b.toNat % 16))
        :: encode rest := by
  obtain ⟨hhigh, hlow⟩ := half_lt b
  have hpercent : ('%' : Char).toNat ≤ 127 := by decide
  have hwritten : percentEncode b ++ rest
      = '%' :: digit (b.toNat / 16) :: digit (b.toNat % 16) :: rest := rfl
  rw [hwritten, encode_ascii hpercent, encode_ascii (digit_ascii _ hhigh),
    encode_ascii (digit_ascii _ hlow)]
  rfl

/-- The three are read as the one they stand for. -/
theorem percentDecode_triple (b : UInt8) (rest : List UInt8) :
    percentDecode
        (byte '%' :: byte (digit (b.toNat / 16))
          :: byte (digit (b.toNat % 16)) :: rest)
      = b :: percentDecode rest := by
  obtain ⟨hhigh, hlow⟩ := half_lt b
  have hbyte : 16 * (b.toNat / 16) + b.toNat % 16 = b.toNat :=
    Nat.div_add_mod b.toNat 16
  rw [percentDecode, hexDigit?_digit _ hhigh, hexDigit?_digit _ hlow,
    beq_self_eq_true]
  dsimp only
  rw [hbyte, UInt8.ofNat_toNat]

-- ================================================================= parts

variable {bytes : List UInt8} {x : UInt8}

/-- Bytes that were written one by one are read one by one. -/
theorem percentDecode_written (bytes : List UInt8) :
    percentDecode (encode (bytes.flatMap percentEncode)) = bytes := by
  induction bytes with
  | nil => rfl
  | cons b rest ih =>
      rw [List.flatMap_cons, encode_percentEncode, percentDecode_triple, ih]

/-- What is written for bytes is made of percent signs and digits. -/
theorem mem_written (h : x ∈ encode (bytes.flatMap percentEncode)) :
    x = byte '%' ∨ ∃ n < 16, x = byte (digit n) := by
  induction bytes with
  | nil => cases h
  | cons b rest ih =>
      obtain ⟨hhigh, hlow⟩ := half_lt b
      rw [List.flatMap_cons, encode_percentEncode] at h
      simp only [List.mem_cons] at h
      rcases h with rfl | rfl | rfl | h
      · exact .inl rfl
      · exact .inr ⟨_, hhigh, rfl⟩
      · exact .inr ⟨_, hlow, rfl⟩
      · exact ih h

/-- Whether a byte means something between or inside of parts. -/
def isSyntax (x : UInt8) : Bool :=
  x == byte '+' || x == byte '&' || x == byte '='

/-- No byte of a name or of a value is syntax, for all there is are percent
signs and digits. -/
theorem isSyntax_of_mem_encodePart {s : String}
    (h : x ∈ encode (encodePart s)) :
    isSyntax x = false := by
  have hdigit : ∀ n < 16, isSyntax (byte (digit n)) = false := by decide
  rcases mem_written h with rfl | ⟨n, hn, rfl⟩
  · decide
  · exact hdigit n hn

/-- A name or a value is read back. -/
theorem decodePart_encodePart (s : String) :
    decodePart (encode (encodePart s)) = s := by
  have hspaced : (encode (encodePart s)).map
      (fun b => if b = byte '+' then byte ' ' else b)
        = encode (encodePart s) := by
    refine (List.map_congr_left fun b hb => ?_).trans (List.map_id _)
    have hplain := isSyntax_of_mem_encodePart hb
    rw [if_neg, id]
    intro hplus
    subst hplus
    exact absurd hplain (by decide)
  unfold decodePart
  dsimp only
  rw [hspaced, encodePart, percentDecode_written, decode_encode,
    String.ofList_toList]

-- ================================================================= pairs

theorem encode_encodePair (pair : String × String) :
    encode (encodePair pair)
      = encode (encodePart pair.1)
        ++ byte '=' :: encode (encodePart pair.2) := by
  have hequals : ('=' : Char).toNat ≤ 127 := by decide
  rw [encodePair, encode_append, encode_ascii hequals]
  rfl

/-- A pair is read back: its first equals sign is the one between name and
value. -/
theorem decodePair_encodePair (pair : String × String) :
    decodePair (encode (encodePair pair)) = pair := by
  have hname : ∀ x ∈ encode (encodePart pair.1), (x == byte '=') = false := by
    intro x hx
    have hplain := isSyntax_of_mem_encodePart hx
    simp only [isSyntax, Bool.or_eq_false_iff] at hplain
    exact hplain.2
  rw [encode_encodePair, decodePair,
    Text.splitFirst_append_separator hname (beq_self_eq_true (byte '='))]
  dsimp only [Option.getD_some]
  rw [decodePart_encodePart, decodePart_encodePart]

/-- A pair holds no ampersand. -/
theorem ampersand_of_mem_encodePair {pair : String × String}
    (h : x ∈ encode (encodePair pair)) : (x == byte '&') = false := by
  rw [encode_encodePair, List.mem_append, List.mem_cons] at h
  have hpart : ∀ s, x ∈ encode (encodePart s) → (x == byte '&') = false := by
    intro s hs
    have hplain := isSyntax_of_mem_encodePart hs
    simp only [isSyntax, Bool.or_eq_false_iff] at hplain
    exact hplain.1.2
  rcases h with h | rfl | h
  · exact hpart _ h
  · decide
  · exact hpart _ h

-- ========================================================= query strings

/-- The bytes of texts with ampersands between them. -/
theorem encode_intercalate (texts : List (List Char)) :
    encode (['&'].intercalate texts)
      = [byte '&'].intercalate (texts.map encode) := by
  have hampersand : ('&' : Char).toNat ≤ 127 := by decide
  induction texts with
  | nil => rfl
  | cons text rest ih =>
      cases rest with
      | nil =>
          rw [List.intercalate_singleton, List.map_singleton,
            List.intercalate_singleton]
      | cons next others =>
          rw [List.map_cons, List.map_cons, List.intercalate_cons_cons,
            List.intercalate_cons_cons, List.append_assoc, encode_append,
            List.singleton_append, encode_ascii hampersand, ih, List.map_cons,
            List.append_assoc]
          rfl

/-- The reader finds the pairs that were written. -/
theorem pairs_written (written : List (String × String)) :
    pairs (encode (['&'].intercalate (written.map encodePair))) = written := by
  by_cases hempty : written = []
  · subst hempty
    rfl
  -- each pair has its equals sign, so that no piece is dropped for being empty
  have hpieces : ∀ piece ∈ (written.map encodePair).map encode,
      (!piece.isEmpty) = true ∧ byte '&' ∉ piece := by
    intro piece hpiece
    rw [List.map_map] at hpiece
    obtain ⟨pair, -, rfl⟩ := List.mem_map.mp hpiece
    refine ⟨?_, fun hx => ?_⟩
    · rw [Function.comp_apply, encode_encodePair]
      simp
    · exact absurd (ampersand_of_mem_encodePair hx) (by decide)
  have hsplit :
      ([byte '&'].intercalate ((written.map encodePair).map encode)).splitOn
        (byte '&') = (written.map encodePair).map encode := by
    apply List.splitOn_intercalate
    · intro piece hpiece
      exact (hpieces piece hpiece).2
    · simpa using hempty
  rw [pairs, encode_intercalate, hsplit,
    List.filter_eq_self.mpr fun piece hpiece => (hpieces piece hpiece).1,
    List.map_map, List.map_map]
  exact (List.map_congr_left fun pair _ => decodePair_encodePair pair).trans
    (List.map_id _)

/-- A written query string does not begin with a question mark that would be
taken for the one in front of it. -/
theorem dropQuestionMark_written (written : List (String × String)) :
    dropQuestionMark (['&'].intercalate (written.map encodePair))
      = ['&'].intercalate (written.map encodePair) := by
  cases written with
  | nil => rfl
  | cons pair rest =>
      have hfirst : ∃ behind, ['&'].intercalate ((pair :: rest).map encodePair)
          = encodePair pair ++ behind := by
        cases rest with
        | nil => exact ⟨[], by simp⟩
        | cons next others =>
            rw [List.map_cons, List.map_cons, List.intercalate_cons_cons,
              List.append_assoc]
            exact ⟨_, rfl⟩
      obtain ⟨behind, hbehind⟩ := hfirst
      rw [hbehind, encodePair, encodePart]
      -- it begins with a percent sign, or with an equals sign if the name is
      -- empty
      cases encode pair.1.toList with
      | nil => rfl
      | cons b bytes => rfl

/-- Reading undoes writing, with a question mark in front or without. -/
theorem parse_ofPairs (written : List (String × String)) :
    parse (ofPairs written) = Parameters.ofPairs written
      ∧ parse ("?" ++ ofPairs written) = Parameters.ofPairs written := by
  have htext :
      (ofPairs written).toList = ['&'].intercalate (written.map encodePair) :=
    String.toList_ofList
  constructor
  · rw [parse, htext, dropQuestionMark_written, pairs_written]
  · have hquestion : ("?" ++ ofPairs written).toList
        = '?' :: ['&'].intercalate (written.map encodePair) := by
      rw [String.toList_append, htext]
      rfl
    rw [parse, hquestion, dropQuestionMark, pairs_written]

end RecordFilter.QueryString
