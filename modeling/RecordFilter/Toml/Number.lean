/-
The numbers of TOML. A word is a number by its form alone: digits may be
grouped by single underscores, whole numbers may have another base, and no
zero stands in front of other digits. The form says less than the value. A
number may be too large to hold, digits of a base may be missing altogether,
and the groups behind the first one may start like hexadecimal digits and go
on in any way. Such a word is still data, but malformed.
-/
import RecordFilter.Binary64.Decimal
import RecordFilter.Data
import RecordFilter.Text.Character
import RecordFilter.Text.Pieces

namespace RecordFilter.Toml

-- =============================================================== digits

/-- Whether a character is a digit of some base. -/
def isHexDigit (c : Char) : Bool := (Text.hexDigit? c).isSome

/-- Whether each underscore stands between two digits, where what comes
before the text may count as a digit. -/
def isGroupedBehind (isDigit : Char → Bool) (afterDigit : Bool) :
    List Char → Bool
  | [] => true
  | ['_'] => false
  | '_' :: c :: rest =>
    afterDigit && isDigit c && isGroupedBehind isDigit true rest
  | c :: rest => isGroupedBehind isDigit (isDigit c) rest

/-- Whether each underscore in a word stands between two digits. A sign in
front counts as one. -/
def isGrouped (isDigit : Char → Bool) : List Char → Bool
  | '-' :: rest => isGroupedBehind isDigit true rest
  | '+' :: rest => isGroupedBehind isDigit true rest
  | word => isGroupedBehind isDigit false word

/-- A word without its underscores. -/
def ungrouped (word : List Char) : List Char := word.filter (· != '_')

/-- Whether a zero stands in front of something else. -/
def hasLeadingZero : List Char → Bool
  | '0' :: _ :: _ => true
  | _ => false

-- ======================================================== whole numbers

/-- A whole number as data: a number that 128 bits hold may still be too
large to be of use, a larger one is malformed. -/
def wholeNumber (n : Int) : Data :=
  if -9223372036854775808 ≤ n ∧ n ≤ 9223372036854775807 then
    .number (.int (Int64.ofInt n))
  else if 0 ≤ n ∧ n ≤ 18446744073709551615 then
    .number (.uint (UInt64.ofNat n.toNat))
  else if -(2 ^ 127 : Int) ≤ n ∧ n < 2 ^ 128 then .unreadable
  else .malformed

/-- The digits of a whole number in another base, which must be below it;
without any, the number is malformed. -/
def based? (base : Nat) (word : List Char) : Option Data := do
  guard (isGroupedBehind isHexDigit false word)
  let digits ← (ungrouped word).mapM Text.hexDigit?
  guard (digits.all (· < base))
  if digits.isEmpty then return .malformed
  return wholeNumber (digits.foldl (fun n digit => base * n + digit) 0 : Nat)

/-- Characters that occur in no decimal whole number, whatever its groups
are like. -/
def endsWholeNumber (c : Char) : Bool :=
  c == '.' || c == 'e' || c == 'E' || c == ' '

/-- Whether an unsigned word is a run of digits, or starts with one and goes
on with further groups. -/
def isWhole (word : List Char) : Bool :=
  let groups := word.dropWhile Char.isDigit
  !word.isEmpty && !hasLeadingZero word && groups.head?.all (· == '_')
    && !groups.any endsWholeNumber

/-- A decimal whole number. Its groups may look like those of another base,
and then it is malformed. -/
def decimal? (word : List Char) : Option Data :=
  let (negative, digits) := Decimal.takeSign word
  if isWhole digits && isGrouped isHexDigit word then
    let digits := ungrouped digits
    if digits.all Char.isDigit then
      let n : Int := Numeral.value digits
      some (wholeNumber (if negative then -n else n))
    else some .malformed
  else none

/-- A whole number. -/
def integer? : List Char → Option Data
  | '0' :: 'x' :: digits => based? 16 digits
  | '0' :: 'o' :: digits => based? 8 digits
  | '0' :: 'b' :: digits => based? 2 digits
  | word => decimal? word

-- ============================================================== doubles

/-- Whether a word consists of digits, at least one, and underscores. -/
def isRun (word : List Char) : Bool :=
  word.any Char.isDigit && word.all fun c => c.isDigit || c == '_'

/-- Whether an unsigned word has a point or a power of ten, with runs of
digits around them. -/
def isFractional (word : List Char) : Bool :=
  let (mantissa, power) := Text.splitFirst (fun c => c == 'e' || c == 'E') word
  let (whole, fraction) := Text.splitFirst (· == '.') mantissa
  (fraction.isSome || power.isSome)
    && isRun whole && !hasLeadingZero whole && fraction.all isRun
    && power.all fun power => isRun (Decimal.takeSign power).2

/-- The double nearest to a decimal; one beyond all doubles is malformed. -/
def double (word : List Char) : Data :=
  (((Decimal.read? word).map (Binary64.ofDecimal .double)).filter
    Binary64.isFinite).elim .malformed fun x => .number (.float x)

/-- A number with a point or a power of ten, or one without digits. -/
def float? (word : List Char) : Option Data :=
  let (negative, rest) := Decimal.takeSign word
  if rest = "inf".toList then some (.number (.float (.infinite negative)))
  else if rest = "nan".toList then some (.number (.float .nan))
  else if isFractional rest && isGrouped Char.isDigit word then
    some (double (ungrouped word))
  else none

/-- A number. -/
def number? (word : List Char) : Option Data :=
  (integer? word).or (float? word)

end RecordFilter.Toml
