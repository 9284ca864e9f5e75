/-
Query strings in the form that web forms use. Pairs stand between
ampersands, empty ones are no pairs; in a pair the first equals sign
separates the name from the value. A plus sign is a space, and `%XX` is the
byte with that number; the bytes are UTF-8.

What is written here says exactly what it is to say: every byte of a name
and of a value is written as `%XX`, so that no character of either can be
taken for one of the syntax.
-/
import RecordFilter.Parameters
import RecordFilter.Text.Character
import RecordFilter.Text.Pieces
import RecordFilter.Text.Utf8

namespace RecordFilter.QueryString

-- ================================================================ reading

/-- The byte of an ASCII character. -/
def byte (c : Char) : UInt8 := UInt8.ofNat c.toNat

/-- The value of a byte that is a hexadecimal digit. -/
def hexDigit? (b : UInt8) : Option Nat := Text.hexDigit? (Char.ofNat b.toNat)

/-- The bytes with each `%XX` read as one byte. A percent sign without two
hexadecimal digits behind it stands for itself. -/
def percentDecode : List UInt8 → List UInt8
  | [] => []
  | [a] => [a]
  | [a, b] => [a, b]
  | a :: b :: c :: rest =>
    match a == byte '%', hexDigit? b, hexDigit? c with
    | true, some x, some y => UInt8.ofNat (16 * x + y) :: percentDecode rest
    | _, _, _ => a :: percentDecode (b :: c :: rest)

/-- The text of a name or a value. -/
def decodePart (bytes : List UInt8) : String :=
  let spaced := bytes.map fun b => if b = byte '+' then byte ' ' else b
  String.ofList (Text.Utf8.decode (percentDecode spaced))

/-- The name and the value of a pair, which is empty if there is no equals
sign. -/
def decodePair (bytes : List UInt8) : String × String :=
  let (name, value?) := Text.splitFirst (· == byte '=') bytes
  (decodePart name, decodePart (value?.getD []))

/-- The pairs of a query string, in order. -/
def pairs (bytes : List UInt8) : List (String × String) :=
  ((bytes.splitOn (byte '&')).filter fun piece => !piece.isEmpty).map
    decodePair

/-- A query string without the question mark that may stand in front. -/
def dropQuestionMark : List Char → List Char
  | '?' :: text => text
  | text => text

/-- The parameters of a query string. -/
def parse (query : String) : Parameters :=
  Parameters.ofPairs (pairs (Text.Utf8.encode (dropQuestionMark query.toList)))

-- ================================================================ writing

/-- A byte as a percent sign and two hexadecimal digits. -/
def percentEncode (b : UInt8) : List Char :=
  ['%', (Nat.digitChar (b.toNat / 16)).toUpper,
    (Nat.digitChar (b.toNat % 16)).toUpper]

/-- The text of a name or a value. -/
def encodePart (s : String) : List Char :=
  (Text.Utf8.encode s.toList).flatMap percentEncode

/-- The text of a pair. -/
def encodePair (pair : String × String) : List Char :=
  encodePart pair.1 ++ '=' :: encodePart pair.2

/-- The query string of pairs, in order. -/
def ofPairs (pairs : List (String × String)) : String :=
  String.ofList (['&'].intercalate (pairs.map encodePair))

end RecordFilter.QueryString
