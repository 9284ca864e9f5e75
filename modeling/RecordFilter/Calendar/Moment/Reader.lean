/-
Readers of moments. A text is taken as the strict Internet form first, with
all its digits and an offset from universal time, to which the moment is
brought; then as one of four local forms, which ask for fewer digits and
allow blanks in front of any number; then as a bare day. The first form
that takes the whole text decides.
-/
import RecordFilter.Calendar.Moment
import RecordFilter.Reader

namespace RecordFilter.Calendar

/-- Takes the fraction of a second, in nanoseconds; digits after the ninth
change nothing. No fraction is zero. -/
def fraction : Reader Nat
  | '.' :: text =>
    (Reader.allDigits text).map fun (run, rest) =>
      (Numeral.value ((run ++ List.replicate 9 '0').take 9), rest)
  | text => some (0, text)

/-- The moment at a second of the clock, where second 60 is a leap second. -/
def Moment.atClock? (date : Date) (hour minute second nanosecond : Nat) :
    Option Moment :=
  if second = 60 then Moment.of? date hour minute 59 (1000000000 + nanosecond)
  else Moment.of? date hour minute second nanosecond

-- ======================================================= Internet form

namespace Internet

/-- An offset from universal time in minutes: `Z`, or a sign, hours and
minutes, less than a day. The minus sign of typography is a sign too. -/
def offset : Reader Int := do
  let sign ← Reader.oneOf ['Z', 'z', '+', '-', '\u2212']
  if sign = 'Z' ∨ sign = 'z' then return 0
  let hours ← Reader.digits 2 2
  Reader.literal ':'
  let minutes ← Reader.digits 2 2
  guard (minutes < 60 ∧ hours < 24)
  let total : Int := hours * 60 + minutes
  return if sign = '+' then total else -total

/-- A day, a time of day and an offset, all digits written. -/
def moment : Reader Moment := do
  let year ← Reader.digits 4 4
  Reader.literal '-'
  let month ← Reader.digits 2 2
  Reader.literal '-'
  let day ← Reader.digits 2 2
  let _ ← Reader.oneOf ['T', 't', ' ']
  let hour ← Reader.digits 2 2
  Reader.literal ':'
  let minute ← Reader.digits 2 2
  Reader.literal ':'
  let second ← Reader.digits 2 2
  let nanosecond ← fraction
  let minutes ← offset
  let date ← (Date.of? year month day : Option Date)
  let wall ←
    (Moment.atClock? date hour minute second nanosecond : Option Moment)
  (wall.minutesBefore? minutes : Option Moment)

end Internet

-- ========================================================= local forms

namespace Local

/-- A number of one or two digits, with blanks in front. -/
def twoDigits : Reader Nat := do
  Reader.blanks
  Reader.digits 1 2

/-- A year: up to four digits, or a sign and any number of digits. -/
def year : Reader Int := do
  Reader.blanks
  match ← get with
  | '-' :: text => do
    set text
    return -Numeral.value (← Reader.allDigits)
  | '+' :: text => do
    set text
    return Numeral.value (← Reader.allDigits)
  | _ => return (← Reader.digits 1 4 : Nat)

/-- A day. -/
def date : Reader Date := do
  let year ← year
  Reader.literal '-'
  let month ← twoDigits
  Reader.literal '-'
  let day ← twoDigits
  (Date.of? year month day : Option Date)

/-- A second, with the fraction behind it. -/
def seconds : Reader (Nat × Nat) := do
  Reader.literal ':'
  let second ← twoDigits
  return (second, ← fraction)

/-- A day and a time of day, with what stands between them and how the time
ends. -/
def moment (separator : Reader Unit) (ending : Reader (Nat × Nat)) :
    Reader Moment := do
  let date ← date
  separator
  let hour ← twoDigits
  Reader.literal ':'
  let minute ← twoDigits
  let (second, nanosecond) ← ending
  (Moment.atClock? date hour minute second nanosecond : Option Moment)

/-- A time that ends with its minutes. -/
def noSeconds : Reader (Nat × Nat) := pure (0, 0)

/-- The local forms, in the order in which they are tried. -/
def moments : List (Reader Moment) :=
  [moment (Reader.literal 'T') seconds, moment Reader.blanks seconds,
    moment (Reader.literal 'T') noSeconds, moment Reader.blanks noSeconds]

end Local

/-- Reads a moment in any of the accepted forms. -/
def Moment.read? (text : List Char) : Option Moment :=
  (Reader.whole Internet.moment text).or <|
    (Local.moments.findSome? fun reader => Reader.whole reader text).or <|
      (Reader.whole Local.date text).map Moment.midnight

end RecordFilter.Calendar
