import TableView.Calendar.Date

/-! Instants of calendar time, counted in nanoseconds within a second. -/
namespace TableView

/-- A second of 60 is a leap second. -/
def Instant.isClock (hour minute second nanos : Nat) : Bool :=
  hour < 24 && minute < 60 && second ≤ 60 && nanos < 1000000000

structure Instant where
  date : Date
  hour : Nat
  minute : Nat
  second : Nat
  nanos : Nat
  valid : Instant.isClock hour minute second nanos = true
deriving DecidableEq

namespace Instant

def ofParts? (date : Date) (hour minute second nanos : Nat) : Option Instant :=
  if h : isClock hour minute second nanos = true then some ⟨date, hour, minute, second, nanos, h⟩
  else none

/-- An instant that is not within a leap second. -/
def ofClock? (date : Date) (hour minute second nanos : Nat) : Option Instant :=
  if second < 60 then ofParts? date hour minute second nanos else none

def midnight (date : Date) : Instant := ⟨date, 0, 0, 0, 0, by decide⟩

def nextYear? (t : Instant) : Option Instant :=
  (Date.ofParts? (t.date.year + 1) 1 1).map midnight

/-- The start of the next month. -/
def nextMonth? (t : Instant) : Option Instant :=
  (Date.ofParts? t.date.year (t.date.month + 1) 1 <|>
    Date.ofParts? (t.date.year + 1) 1 1).map midnight

def nextDay? (t : Instant) : Option Instant := t.date.next?.map midnight

def nextHour? (t : Instant) : Option Instant := ofClock? t.date (t.hour + 1) 0 0 0 <|> t.nextDay?

def nextMinute? (t : Instant) : Option Instant :=
  ofClock? t.date t.hour (t.minute + 1) 0 0 <|> t.nextHour?

def nextSecond? (t : Instant) : Option Instant :=
  ofClock? t.date t.hour t.minute (t.second + 1) 0 <|> t.nextMinute?

/-- A millisecond earlier, also across the start of a second, minute, hour or day. -/
def previousMilli? (t : Instant) : Option Instant :=
  let nanos := t.nanos + 999000000
  if 1000000 ≤ t.nanos then ofParts? t.date t.hour t.minute t.second (t.nanos - 1000000)
  else if 0 < t.second then ofParts? t.date t.hour t.minute (t.second - 1) nanos
  else if 0 < t.minute then ofParts? t.date t.hour (t.minute - 1) 59 nanos
  else if 0 < t.hour then ofParts? t.date (t.hour - 1) 59 59 nanos
  else t.date.previous?.bind fun date => ofParts? date 23 59 59 nanos

theorem clock_lt (t : Instant) :
    t.hour < 24 ∧ t.minute < 60 ∧ t.second ≤ 60 ∧ t.nanos < 1000000000 := by
  have := t.valid
  simp only [isClock, Bool.and_eq_true, decide_eq_true_eq] at this
  exact ⟨this.1.1.1, this.1.1.2, this.1.2, this.2⟩

end Instant
end TableView
