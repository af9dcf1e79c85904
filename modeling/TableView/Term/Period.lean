import TableView.Calendar.Instant
import TableView.Term.Number

/-! Date terms: the runs of digits name a period, the more of them the shorter. -/
namespace TableView

inductive Precision | year | month | day | hour | minute | second | point
deriving DecidableEq, Repr

/-- All instants from the first to the last, both included. -/
structure Period where
  start : Instant
  last : Instant
  precision : Precision
deriving DecidableEq

namespace Precision

/-- The precision that a number of runs gives a term. -/
def ofCount : Nat → Precision
  | 0 | 1 => year
  | 2 => month
  | 3 => day
  | 4 => hour
  | 5 => minute
  | 6 => second
  | _ => point

def word : Precision → String
  | year => "year"
  | month => "month"
  | day => "day"
  | hour => "hour"
  | minute => "minute"
  | second => "second"
  | point => "point"

/-- The first instant after the period, if the calendar has it. -/
def next? : Precision → Instant → Option Instant
  | year, t => t.nextYear?
  | month, t => t.nextMonth?
  | day, t => t.nextDay?
  | hour, t => t.nextHour?
  | minute, t => t.nextMinute?
  | second, t => t.nextSecond?
  | point, t => some t

/-- The last instant of a period, given the first one after it: a millisecond earlier, but a
window of one second ends with the next second. -/
def last? : Precision → Instant → Option Instant
  | second, next | point, next => some next
  | _, next => next.previousMilli?

end Precision

namespace Term

/-- The first six digits as millionths; a digit that is not one of `0` to `9` counts as zero. -/
def micros (run : List Char) : Nat :=
  ((run ++ List.replicate 6 '0').take 6).foldl
    (fun n c => n * 10 + if c.isDigit then Text.digitValue c else 0) 0

/-- The number that a run spells within a word of 32 bits, or a default where there is no run. -/
def part? (runs : List (List Char)) (i default : Nat) : Option Nat :=
  match runs[i]? with
  | some run => (Text.nat? run).filter (· < 4294967296)
  | none => some default

/-- The start that the runs spell: month and day default to one, the clock to zero. -/
def startOf? (runs : List (List Char)) : Option Instant := do
  let year ← (part? runs 0 0).filter (· < 2147483648)
  let date ← Date.ofParts? year (← part? runs 1 1) (← part? runs 2 1)
  let fraction := (runs[6]?.map micros).getD 0
  Instant.ofClock? date (← part? runs 3 0) (← part? runs 4 0) (← part? runs 5 0) (fraction * 1000)

/-- The start that the runs spell and the first instant after their period. -/
def bounds? (runs : List (List Char)) : Option (Instant × Instant) := do
  let start ← startOf? runs
  return (start, ← (Precision.ofCount runs.length).next? start)

/-- A period whose end falls before the calendar would stop the whole query. -/
def period (raw : String) : Except TermError Period :=
  let runs := digitRuns raw
  let precision := Precision.ofCount runs.length
  if runs.isEmpty then .error (.dateParse raw)
  else
    match bounds? runs with
    | none => .error (.dateParse raw)
    | some (start, next) =>
      match precision.last? next with
      | some last => .ok { start, last, precision }
      | none => .error .overflow

end Term
end TableView
