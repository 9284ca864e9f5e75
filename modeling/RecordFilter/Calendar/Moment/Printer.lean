/-
The text of a moment: `2021-03-04T05:06:07.500`. Years outside 0 to 9999
carry a sign, a fraction of a second is written only where there is one, to
the millisecond, microsecond or nanosecond, and a leap second is second 60.
-/
import RecordFilter.Calendar.Moment
import RecordFilter.Numeral

namespace RecordFilter.Calendar

/-- The text of a year. -/
def yearText (year : Int) : List Char :=
  if year < 0 then '-' :: Numeral.padded 4 year.natAbs
  else if 9999 < year then '+' :: Numeral.padded 4 year.natAbs
  else Numeral.padded 4 year.natAbs

/-- The text of a day. -/
def Date.text (d : Date) : List Char :=
  yearText d.year ++ '-' :: Numeral.padded 2 d.month
    ++ '-' :: Numeral.padded 2 d.day

/-- The fraction of a second, in groups of three digits. -/
def fractionText (nanosecond : Nat) : List Char :=
  if nanosecond = 0 then []
  else if nanosecond % 1000000 = 0 then
    '.' :: Numeral.padded 3 (nanosecond / 1000000)
  else if nanosecond % 1000 = 0 then
    '.' :: Numeral.padded 6 (nanosecond / 1000)
  else '.' :: Numeral.padded 9 nanosecond

namespace Moment

/-- The text of a moment, as characters. -/
def text (m : Moment) : List Char :=
  m.date.text ++ 'T' :: Numeral.padded 2 m.hour
    ++ ':' :: Numeral.padded 2 m.minute
    ++ ':' :: Numeral.padded 2 (m.second + m.nanosecond / 1000000000)
    ++ fractionText (m.nanosecond % 1000000000)

/-- The text of a moment. -/
def render (m : Moment) : String := String.ofList m.text

end Moment

end RecordFilter.Calendar
