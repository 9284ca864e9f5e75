/-
UTF-8. Encoding is core's; decoding never fails, but reads each maximal
run of bytes that starts a character and does not end it, and each byte
that starts none, as one replacement character. The decoder is a machine:
its state is what is still missing of the character it is in.
-/
namespace RecordFilter.Text.Utf8

/-- The bytes of a text. -/
def encode (text : List Char) : List UInt8 :=
  text.flatMap String.utf8EncodeChar

/-- A character whose last bytes are missing: the bits read so far, how many
bytes are missing, and the bounds for the next one. -/
structure Pending where
  bits : Nat
  missing : Nat
  low : Nat
  high : Nat
  deriving DecidableEq, Repr

/-- The character in place of what cannot be read. -/
def replacement : Char := '\uFFFD'

/-- What a byte at the start of a character gives: a whole character, or one
with bytes missing. The bounds leave out overlong forms, surrogates and
what is beyond the last code point. -/
def start (b : Nat) : List Char × Option Pending :=
  if b < 0x80 then ([Char.ofNat b], none)
  else if 0xC2 ≤ b ∧ b ≤ 0xDF then ([], some ⟨b - 0xC0, 1, 0x80, 0xBF⟩)
  else if b = 0xE0 then ([], some ⟨0, 2, 0xA0, 0xBF⟩)
  else if b = 0xED then ([], some ⟨0xD, 2, 0x80, 0x9F⟩)
  else if 0xE1 ≤ b ∧ b ≤ 0xEF then ([], some ⟨b - 0xE0, 2, 0x80, 0xBF⟩)
  else if b = 0xF0 then ([], some ⟨0, 3, 0x90, 0xBF⟩)
  else if 0xF1 ≤ b ∧ b ≤ 0xF3 then ([], some ⟨b - 0xF0, 3, 0x80, 0xBF⟩)
  else if b = 0xF4 then ([], some ⟨4, 3, 0x80, 0x8F⟩)
  else ([replacement], none)

/-- What one more byte gives. A byte that cannot go on with a character
starts another. -/
def step : Option Pending → Nat → List Char × Option Pending
  | none, b => start b
  | some p, b =>
    if p.low ≤ b ∧ b ≤ p.high then
      let bits := p.bits * 64 + (b - 0x80)
      if p.missing = 1 then ([Char.ofNat bits], none)
      else ([], some ⟨bits, p.missing - 1, 0x80, 0xBF⟩)
    else
      let (chars, next) := start b
      (replacement :: chars, next)

/-- The characters of the bytes that follow a state. -/
def decodeFrom : Option Pending → List UInt8 → List Char
  | none, [] => []
  | some _, [] => [replacement]
  | state, b :: rest =>
    let (chars, next) := step state b.toNat
    chars ++ decodeFrom next rest

/-- The characters of a sequence of bytes. -/
def decode (bytes : List UInt8) : List Char := decodeFrom none bytes

end RecordFilter.Text.Utf8
