/-
Moments: a day and a time of day to the nanosecond, without a time zone. A
leap second is told apart from the second before it by its nanoseconds,
which go on counting from 1000000000; it can follow any minute.
-/
import RecordFilter.Calendar.Date

namespace RecordFilter.Calendar

/-- A day and a time of day. -/
structure Moment where
  date : Date
  hour : Nat
  minute : Nat
  second : Nat
  nanosecond : Nat
  hour_lt : hour < 24
  minute_lt : minute < 60
  second_lt : second < 60
  nanosecond_lt : nanosecond < 1000000000
    ∨ (second = 59 ∧ nanosecond < 2000000000)
  deriving DecidableEq

namespace Moment

/-- The moment with this date and time of day, if there is one. -/
def of? (date : Date) (hour minute second nanosecond : Nat) : Option Moment :=
  if h : hour < 24 ∧ minute < 60 ∧ second < 60
      ∧ (nanosecond < 1000000000
        ∨ (second = 59 ∧ nanosecond < 2000000000)) then
    some ⟨date, hour, minute, second, nanosecond, h.1, h.2.1, h.2.2.1, h.2.2.2⟩
  else none

theorem of?_self (m : Moment) :
    of? m.date m.hour m.minute m.second m.nanosecond = some m := by
  rw [of?, dif_pos ⟨m.hour_lt, m.minute_lt, m.second_lt, m.nanosecond_lt⟩]

/-- Midnight, the first moment of a day. -/
def midnight (date : Date) : Moment :=
  ⟨date, 0, 0, 0, 0, by decide, by decide, by decide, Or.inl (by decide)⟩

/-- The moment a number of minutes earlier, less than a day; seconds and
nanoseconds stay. -/
def minutesBefore? (m : Moment) (minutes : Int) : Option Moment :=
  let minuteOfDay : Int := m.hour * 60 + m.minute - minutes
  let date? :=
    if minuteOfDay < 0 then m.date.previous?
    else if 24 * 60 ≤ minuteOfDay then m.date.next?
    else some m.date
  let minuteOfDay := (minuteOfDay % (24 * 60)).toNat
  date?.bind fun date =>
    of? date (minuteOfDay / 60) (minuteOfDay % 60) m.second m.nanosecond

/-- The order of two moments: by day, then by second of the day, then by
nanosecond, a leap second after all of the second before it. -/
def order (a b : Moment) : Ordering :=
  (a.date.order b.date).then <|
    (compare (a.hour * 3600 + a.minute * 60 + a.second)
      (b.hour * 3600 + b.minute * 60 + b.second)).then
        (compare a.nanosecond b.nanosecond)

/-- Only a moment itself is neither before nor after it: the second of the
day has the hour and the minute in it. -/
theorem order_eq_iff {a b : Moment} : a.order b = .eq ↔ a = b := by
  have hclock : a.hour * 3600 + a.minute * 60 + a.second
      = b.hour * 3600 + b.minute * 60 + b.second
      ↔ a.hour = b.hour ∧ a.minute = b.minute ∧ a.second = b.second := by
    have := a.minute_lt
    have := a.second_lt
    have := b.minute_lt
    have := b.second_lt
    omega
  rw [order, Ordering.then_eq_eq, Ordering.then_eq_eq, Date.order_eq_iff,
    Nat.compare_eq_eq, Nat.compare_eq_eq, hclock, mk.injEq, and_assoc,
    and_assoc]

end Moment

end RecordFilter.Calendar
