/-! Calendar dates: the year before year 1 is year 0, and the one before that -1. -/
namespace TableView

def isLeapYear (year : Int) : Bool := year % 4 = 0 && (year % 100 != 0 || year % 400 = 0)

def daysInMonth (year : Int) : Nat → Nat
  | 2 => if isLeapYear year then 29 else 28
  | 4 | 6 | 9 | 11 => 30
  | _ => 31

def firstYear : Int := -262143

def lastYear : Int := 262142

def Date.isValid (year : Int) (month day : Nat) : Bool :=
  (firstYear ≤ year && year ≤ lastYear) && (1 ≤ month && month ≤ 12) &&
    (1 ≤ day && day ≤ daysInMonth year month)

@[ext]
structure Date where
  year : Int
  month : Nat
  day : Nat
  valid : Date.isValid year month day = true
deriving DecidableEq

namespace Date

def ofParts? (year : Int) (month day : Nat) : Option Date :=
  if h : isValid year month day = true then some ⟨year, month, day, h⟩ else none

/-- The next day, also across the end of a month or year; the calendar's last day has none. -/
def next? (d : Date) : Option Date :=
  (ofParts? d.year d.month (d.day + 1) <|> ofParts? d.year (d.month + 1) 1) <|>
    ofParts? (d.year + 1) 1 1

/-- The day before, also across the start of a month or year; the calendar's first day has none. -/
def previous? (d : Date) : Option Date :=
  (ofParts? d.year d.month (d.day - 1) <|>
      ofParts? d.year (d.month - 1) (daysInMonth d.year (d.month - 1))) <|>
    ofParts? (d.year - 1) 12 31

theorem year_mem (d : Date) : firstYear ≤ d.year ∧ d.year ≤ lastYear := by
  have := d.valid
  simp only [isValid, Bool.and_eq_true, decide_eq_true_eq] at this
  exact this.1.1

theorem month_mem (d : Date) : 1 ≤ d.month ∧ d.month ≤ 12 := by
  have := d.valid
  simp only [isValid, Bool.and_eq_true, decide_eq_true_eq] at this
  exact this.1.2

theorem day_mem (d : Date) : 1 ≤ d.day ∧ d.day ≤ daysInMonth d.year d.month := by
  have := d.valid
  simp only [isValid, Bool.and_eq_true, decide_eq_true_eq] at this
  exact this.2

theorem daysInMonth_pos (year : Int) (month : Nat) : 1 ≤ daysInMonth year month := by
  unfold daysInMonth
  split <;> (try split) <;> omega

end Date
end TableView
