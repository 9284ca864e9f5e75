/-
The decoder of UTF-8 on bytes that are well formed: it reads back the text
that was encoded, and puts no replacement character anywhere.

# One character

A character's code point is cut into groups of six bits, from the right.
The lead byte holds the group that is left over and says how many bytes
follow; each of these is one group behind the mark `10`. The machine meets
them in this order:

- `start_lead_two`, `start_lead_three`, `start_lead_four`: the lead byte
  leaves the machine with its bits and with bounds that admit the next
  group. The bounds are narrower than the mark alone where a form would be
  overlong, a surrogate or too large, which no character is;
- `decodeFrom_more`: a byte in the middle adds its group to the bits;
- `decodeFrom_last`: the last one completes the character.

A text is read back character by character, since behind each the machine
is where it was before (`decodeFrom_encodeChar`).
-/
import RecordFilter.Text.Utf8

namespace RecordFilter.Text.Utf8

variable {bits missing low high lead n v : Nat} {p : Pending}
  {rest : List UInt8}

-- ============================================================= the bytes

/-- One byte is one step of the machine, which may have characters to hand
out. -/
theorem decodeFrom_cons (state : Option Pending) (b : UInt8)
    (rest : List UInt8) :
    decodeFrom state (b :: rest)
      = (step state b.toNat).1 ++ decodeFrom (step state b.toNat).2 rest := by
  cases state <;> rfl

/-- A lead byte that hands out nothing leaves the machine waiting for more. -/
theorem decodeFrom_lead (hlead : lead < 256) (h : start lead = ([], some p)) :
    decodeFrom none (UInt8.ofNat lead :: rest) = decodeFrom (some p) rest := by
  rw [decodeFrom_cons, UInt8.toNat_ofNat_of_lt' hlead, step, h]
  rfl

/-- A byte in the middle adds its six bits, and from then on the mark alone
bounds what may follow. -/
theorem decodeFrom_more (hlow : low ≤ n % 64 + 128)
    (hhigh : n % 64 + 128 ≤ high) :
    decodeFrom (some ⟨bits, missing + 2, low, high⟩)
      (UInt8.ofNat (n % 64 + 128) :: rest)
      = decodeFrom (some ⟨bits * 64 + n % 64, missing + 1, 0x80, 0xBF⟩)
        rest := by
  have hbyte : n % 64 + 128 < 256 := by omega
  have hstep : step (some ⟨bits, missing + 2, low, high⟩) (n % 64 + 128)
      = ([], some ⟨bits * 64 + n % 64, missing + 1, 0x80, 0xBF⟩) := by
    simp [step, hlow, hhigh]
  rw [decodeFrom_cons, UInt8.toNat_ofNat_of_lt' hbyte, hstep]
  rfl

/-- The last byte completes the character and leaves the machine as it was
before it. -/
theorem decodeFrom_last (hlow : low ≤ n % 64 + 128)
    (hhigh : n % 64 + 128 ≤ high) :
    decodeFrom (some ⟨bits, 1, low, high⟩) (UInt8.ofNat (n % 64 + 128) :: rest)
      = Char.ofNat (bits * 64 + n % 64) :: decodeFrom none rest := by
  have hbyte : n % 64 + 128 < 256 := by omega
  have hstep : step (some ⟨bits, 1, low, high⟩) (n % 64 + 128)
      = ([Char.ofNat (bits * 64 + n % 64)], none) := by
    simp [step, hlow, hhigh]
  rw [decodeFrom_cons, UInt8.toNat_ofNat_of_lt' hbyte, hstep]
  rfl

-- ======================================================== the lead bytes

/-- A character of one byte is that byte. -/
theorem start_ascii (h : v ≤ 127) : start v = ([Char.ofNat v], none) := by
  have hascii : v < 0x80 := by omega
  rw [start, if_pos hascii]

/-- The lead byte of a character of two bytes, which needs no bound but the
mark. -/
theorem start_lead_two (hlow : 128 ≤ v) (hhigh : v ≤ 2047) :
    start (v / 64 % 32 + 192) = ([], some ⟨v / 64, 1, 0x80, 0xBF⟩) := by
  have hbits : v / 64 % 32 = v / 64 := by omega
  unfold start
  rw [hbits, if_neg (by omega), if_pos (by omega), Nat.add_sub_cancel]

/-- The lead byte of a character of three bytes. Surrogates are the code
points that begin with the bits of `0xED` and go on beyond its bound. -/
theorem start_lead_three (hlow : 2048 ≤ v) (hhigh : v ≤ 65535)
    (hscalar : v < 0xD800 ∨ 0xDFFF < v) :
    ∃ low high, low ≤ v / 64 % 64 + 128 ∧ v / 64 % 64 + 128 ≤ high
      ∧ start (v / 4096 % 16 + 224) = ([], some ⟨v / 4096, 2, low, high⟩) := by
  have hbits : v / 4096 % 16 = v / 4096 := by omega
  unfold start
  rw [hbits, if_neg (by omega), if_neg (by omega)]
  by_cases hleast : v / 4096 = 0
  · refine ⟨0xA0, 0xBF, by omega, by omega, ?_⟩
    rw [if_pos (by omega), hleast]
  · rw [if_neg (by omega)]
    by_cases hsurrogate : v / 4096 = 0xD
    · refine ⟨0x80, 0x9F, by omega, by omega, ?_⟩
      rw [if_pos (by omega), hsurrogate]
    · refine ⟨0x80, 0xBF, by omega, by omega, ?_⟩
      rw [if_neg (by omega), if_pos (by omega), Nat.add_sub_cancel]

/-- The lead byte of a character of four bytes. The bounds of the first and of
the last lead byte keep out what is overlong and what is too large. -/
theorem start_lead_four (hlow : 65536 ≤ v) (hhigh : v < 0x110000) :
    ∃ low high, low ≤ v / 4096 % 64 + 128 ∧ v / 4096 % 64 + 128 ≤ high
      ∧ start (v / 262144 % 8 + 240)
        = ([], some ⟨v / 262144, 3, low, high⟩) := by
  have hbits : v / 262144 % 8 = v / 262144 := by omega
  unfold start
  rw [hbits, if_neg (by omega), if_neg (by omega), if_neg (by omega),
    if_neg (by omega), if_neg (by omega)]
  by_cases hleast : v / 262144 = 0
  · refine ⟨0x90, 0xBF, by omega, by omega, ?_⟩
    rw [if_pos (by omega), hleast]
  · rw [if_neg (by omega)]
    by_cases hgreatest : v / 262144 = 4
    · refine ⟨0x80, 0x8F, by omega, by omega, ?_⟩
      rw [if_neg (by omega), if_pos (by omega), hgreatest]
    · refine ⟨0x80, 0xBF, by omega, by omega, ?_⟩
      rw [if_pos (by omega), Nat.add_sub_cancel]

-- ========================================================== whole texts

/-- The bytes of a character are read as that character, whatever follows. -/
theorem decodeFrom_encodeChar (c : Char) (rest : List UInt8) :
    decodeFrom none (String.utf8EncodeChar c ++ rest)
      = c :: decodeFrom none rest := by
  have hvalid : c.val.toNat < 0xD800
      ∨ 0xDFFF < c.val.toNat ∧ c.val.toNat < 0x110000 := c.valid
  have hc : Char.ofNat c.val.toNat = c := c.ofNat_toNat
  rw [String.utf8EncodeChar.eq_1]
  generalize c.val.toNat = v at hvalid hc ⊢
  -- by the number of bytes, as the encoder distinguishes them; each time the
  -- number is what its parts of six bits add up to
  by_cases hone : v ≤ 127
  · have hbyte : v < 256 := by omega
    rw [if_pos hone, List.singleton_append, decodeFrom_cons,
      UInt8.toNat_ofNat_of_lt' hbyte, step, start_ascii hone, hc]
    rfl
  rw [if_neg hone]
  by_cases htwo : v ≤ 2047
  · have hlead := start_lead_two (v := v) (by omega) htwo
    have hbits : v / 64 * 64 + v % 64 = v := by omega
    rw [if_pos htwo]
    dsimp only [List.cons_append, List.nil_append]
    rw [decodeFrom_lead (by omega) hlead,
      decodeFrom_last (by omega) (by omega), hbits, hc]
  rw [if_neg htwo]
  by_cases hthree : v ≤ 65535
  · obtain ⟨low, high, hlow, hhigh, hlead⟩ :=
      start_lead_three (v := v) (by omega) hthree (by omega)
    have hbits : (v / 4096 * 64 + v / 64 % 64) * 64 + v % 64 = v := by omega
    rw [if_pos hthree]
    dsimp only [List.cons_append, List.nil_append]
    rw [decodeFrom_lead (by omega) hlead, decodeFrom_more hlow hhigh,
      decodeFrom_last (by omega) (by omega), hbits, hc]
  · obtain ⟨low, high, hlow, hhigh, hlead⟩ :=
      start_lead_four (v := v) (by omega) (by omega)
    have hbits :
        ((v / 262144 * 64 + v / 4096 % 64) * 64 + v / 64 % 64) * 64 + v % 64
          = v := by
      omega
    rw [if_neg hthree]
    dsimp only [List.cons_append, List.nil_append]
    rw [decodeFrom_lead (by omega) hlead, decodeFrom_more hlow hhigh,
      decodeFrom_more (by omega) (by omega),
      decodeFrom_last (by omega) (by omega), hbits, hc]

/-- What is encoded is decoded. -/
theorem decode_encode (text : List Char) : decode (encode text) = text := by
  induction text with
  | nil => rfl
  | cons c rest ih =>
      rw [encode, List.flatMap_cons, decode, decodeFrom_encodeChar]
      exact congrArg (c :: ·) ih

-- ================================================================ pieces

theorem encode_append (a b : List Char) :
    encode (a ++ b) = encode a ++ encode b :=
  List.flatMap_append

/-- An ASCII character is one byte, with its own number. -/
theorem encode_ascii {c : Char} (h : c.toNat ≤ 127) (rest : List Char) :
    encode (c :: rest) = UInt8.ofNat c.toNat :: encode rest := by
  have hchar : String.utf8EncodeChar c = [UInt8.ofNat c.toNat] := by
    rw [String.utf8EncodeChar.eq_1]
    exact if_pos h
  rw [encode, List.flatMap_cons, hchar]
  rfl

end RecordFilter.Text.Utf8
