import Mathlib.Data.Int.Init
import TableView.Proofs.Calendar.Succession

/-! Dates and instants counted in days and nanoseconds: what follows a day or a second is one more
in that count, and away from leap seconds the order of time is the order of the counts. -/
namespace TableView

namespace Date

def daysInYear (year : Int) : Nat := if isLeapYear year then 366 else 365

/-- The days from the start of year 0 to the start of a year, negative before it. -/
def daysBeforeYear (year : Int) : Int :=
  365 * year + (year + 3) / 4 - (year + 99) / 100 + (year + 399) / 400

/-- The days of a year before one of its months. -/
def daysBeforeMonth (year : Int) : Nat → Nat
  | 0 | 1 => 0
  | month + 2 => daysBeforeMonth year (month + 1) + daysInMonth year (month + 1)

/-- The number of a day; the first of January of year 0 has number 1. -/
def dayNumber (d : Date) : Int :=
  daysBeforeYear d.year + daysBeforeMonth d.year d.month + d.day

variable {d e : Date} {year : Int} {month : Nat}

theorem daysBeforeYear_succ (year : Int) :
    daysBeforeYear (year + 1) = daysBeforeYear year + daysInYear year := by
  simp only [daysBeforeYear, daysInYear, isLeapYear, Bool.and_eq_true, Bool.or_eq_true,
    decide_eq_true_eq, bne_iff_ne]
  split <;> omega

theorem daysBeforeMonth_succ (year : Int) (h : 1 ≤ month) :
    daysBeforeMonth year (month + 1) = daysBeforeMonth year month + daysInMonth year month := by
  obtain ⟨m, rfl⟩ : ∃ m, month = m + 1 := ⟨month - 1, by omega⟩
  rfl

theorem daysBeforeMonth_january (year : Int) : daysBeforeMonth year 1 = 0 := rfl

theorem daysBeforeMonth_december (year : Int) :
    daysBeforeMonth year 12 + 31 = daysInYear year := by
  simp only [daysInYear, daysBeforeMonth, daysInMonth]
  split <;> rfl

theorem dayNumber_next? (h : d.next? = some e) : e.dayNumber = d.dayNumber + 1 := by
  have hmonth := daysBeforeMonth_succ d.year d.month_mem.1
  have hyear := daysBeforeYear_succ d.year
  have hdecember := daysBeforeMonth_december d.year
  unfold dayNumber
  rcases next?_eq_some_iff.mp h with ⟨hy, hm, hd⟩ | ⟨hlast, hy, hm, hd⟩ | ⟨hlast, hd, hy, hm, he⟩
  · rw [hy, hm, hd]
    omega
  · rw [hy, hm, hd, hmonth]
    omega
  · rw [hy, hm, he, hyear, hlast, hd, daysBeforeMonth_january]
    omega

theorem daysBeforeYear_of_lt {year later : Int} (h : year < later) :
    daysBeforeYear year + daysInYear year ≤ daysBeforeYear later := by
  rw [← daysBeforeYear_succ]
  have hle : year + 1 ≤ later := h
  induction later, hle using Int.leInduction with
  | base => exact le_refl _
  | succ later hle ih =>
    have hsucc := daysBeforeYear_succ later
    have hih := ih (by omega)
    omega

theorem daysBeforeMonth_of_lt (year : Int) {later : Nat} (hm : 1 ≤ month) (h : month < later) :
    daysBeforeMonth year month + daysInMonth year month ≤ daysBeforeMonth year later := by
  rw [← daysBeforeMonth_succ year hm]
  induction later, h using Nat.le_induction with
  | base => exact le_refl _
  | succ later hle ih =>
    have hsucc := daysBeforeMonth_succ year (Nat.zero_lt_of_lt hle)
    omega

theorem dayOfYear_le (d : Date) : daysBeforeMonth d.year d.month + d.day ≤ daysInYear d.year := by
  have hd := d.day_mem
  have hdecember := daysBeforeMonth_december d.year
  rcases d.month_mem.2.lt_or_eq with hlt | heq
  · have hmonth := daysBeforeMonth_of_lt d.year d.month_mem.1 hlt
    omega
  · have hlast := daysInMonth_of_december heq
    rw [heq] at hd hlast ⊢
    omega

/-- Days are numbered in the order of time. -/
theorem dayNumber_lt_of_lt (h : d.year < e.year ∨ d.year = e.year ∧
    (d.month < e.month ∨ d.month = e.month ∧ d.day < e.day)) : d.dayNumber < e.dayNumber := by
  have hd := d.day_mem
  have he := e.day_mem
  unfold dayNumber
  rcases h with hyear | ⟨hyear, hmonth | ⟨hmonth, hday⟩⟩
  · have hyears := daysBeforeYear_of_lt hyear
    have hdays := dayOfYear_le d
    omega
  · have hmonths := daysBeforeMonth_of_lt d.year d.month_mem.1 hmonth
    rw [← hyear]
    omega
  · rw [← hyear, ← hmonth]
    omega

end Date

namespace Instant

variable {t u : Instant}

/-- Seconds since the start of the day before year 0, leap seconds not counted. -/
def seconds (t : Instant) : Int :=
  ((t.date.dayNumber * 24 + t.hour) * 60 + t.minute) * 60 + t.second

/-- Nanoseconds since the start of the day before year 0, leap seconds not counted. -/
def stamp (t : Instant) : Int := t.seconds * 1000000000 + t.nanos

theorem seconds_eq_of_components (h : t.components = u.components) : t.seconds = u.seconds := by
  simp only [components, List.cons.injEq, and_true, Int.natCast_inj] at h
  obtain ⟨hyear, hmonth, hday, hhour, hminute, hsecond⟩ := h
  rw [seconds, seconds, Date.ext hyear hmonth hday, hhour, hminute, hsecond]

theorem stamp_nextDay? (h : t.nextDay? = some u) :
    u.stamp = (t.date.dayNumber + 1) * 86400000000000 := by
  obtain ⟨hu, hdate⟩ := nextDay?_eq_some_iff.mp h
  have hday := Date.dayNumber_next? hdate
  rw [hu, stamp, seconds]
  simp only [midnight]
  omega

theorem stamp_nextHour? (h : t.nextHour? = some u) :
    u.stamp = (t.date.dayNumber * 24 + t.hour + 1) * 3600000000000 := by
  rcases nextHour?_eq_some_iff.mp h with ⟨hdate, hhour, hminute, hsecond, hnanos⟩ | ⟨hhour, hday⟩
  · rw [stamp, seconds, hdate, hhour, hminute, hsecond, hnanos]
    omega
  · rw [stamp_nextDay? hday]
    omega

theorem stamp_nextMinute? (h : t.nextMinute? = some u) :
    u.stamp = ((t.date.dayNumber * 24 + t.hour) * 60 + t.minute + 1) * 60000000000 := by
  rcases nextMinute?_eq_some_iff.mp h with ⟨hdate, hhour, hminute, hsecond, hnanos⟩ | ⟨hminute, hh⟩
  · rw [stamp, seconds, hdate, hhour, hminute, hsecond, hnanos]
    omega
  · rw [stamp_nextHour? hh]
    omega

/-- The next second is a thousand million nanoseconds away, also across the end of a year. -/
theorem stamp_nextSecond? (ht : t.NotLeap) (h : t.nextSecond? = some u) :
    u.stamp + t.nanos = t.stamp + 1000000000 := by
  rw [NotLeap] at ht
  rcases nextSecond?_eq_some_iff.mp h with
    ⟨_, hdate, hhour, hminute, hsecond, hnanos⟩ | ⟨hsecond, hm⟩
  · rw [stamp, stamp, seconds, seconds, hdate, hhour, hminute, hsecond, hnanos]
    omega
  · rw [stamp_nextMinute? hm, stamp, seconds]
    omega

/-- The order of time is that of the seconds, and within one second that of the nanoseconds. -/
theorem seconds_lt_of_lt (ht : t.NotLeap) (h : t < u) :
    t.seconds < u.seconds ∨ t.components = u.components ∧ t.nanos < u.nanos := by
  have htc := t.clock_lt
  have huc := u.clock_lt
  rw [NotLeap] at ht
  have hcases : t.date.dayNumber < u.date.dayNumber ∨ t.date = u.date ∧
      (t.hour < u.hour ∨ t.hour = u.hour ∧ (t.minute < u.minute ∨ t.minute = u.minute ∧
        (t.second < u.second ∨ t.second = u.second ∧ t.nanos < u.nanos))) := by
    rcases lt_iff.mp h with hyear | ⟨hyear, hmonth | ⟨hmonth, hday | ⟨hday, hclock⟩⟩⟩
    · exact Or.inl (Date.dayNumber_lt_of_lt (Or.inl hyear))
    · exact Or.inl (Date.dayNumber_lt_of_lt (Or.inr ⟨hyear, Or.inl hmonth⟩))
    · exact Or.inl (Date.dayNumber_lt_of_lt (Or.inr ⟨hyear, Or.inr ⟨hmonth, hday⟩⟩))
    · exact Or.inr ⟨Date.ext hyear hmonth hday, hclock⟩
  unfold seconds components
  rcases hcases with
    hday | ⟨hday, hhour | ⟨hhour, hminute | ⟨hminute, hsecond | ⟨hsecond, hnanos⟩⟩⟩⟩
  · omega
  · rw [hday]
    omega
  · rw [hday]
    omega
  · rw [hday]
    omega
  · exact Or.inr ⟨by rw [hday, hhour, hminute, hsecond], hnanos⟩

theorem stamp_lt_of_lt (ht : t.NotLeap) (h : t < u) : t.stamp < u.stamp := by
  have htc := t.clock_lt
  unfold stamp
  rcases seconds_lt_of_lt ht h with hlt | ⟨heq, hnanos⟩
  · omega
  · have hseconds := seconds_eq_of_components heq
    omega

/-- Away from leap seconds instants are counted in the order of time. -/
theorem stamp_lt_iff (ht : t.NotLeap) (hu : u.NotLeap) : t.stamp < u.stamp ↔ t < u := by
  constructor
  · intro h
    rcases lt_trichotomy t u with hlt | rfl | hgt
    · exact hlt
    · exact absurd h (lt_irrefl _)
    · exact absurd (stamp_lt_of_lt hu hgt) (not_lt_of_gt h)
  · exact stamp_lt_of_lt ht

theorem stamp_le_iff (ht : t.NotLeap) (hu : u.NotLeap) : t.stamp ≤ u.stamp ↔ t ≤ u := by
  rw [← not_lt, stamp_lt_iff hu ht, not_lt]

/-- The end of a whole second is not later than an instant that follows the second. -/
theorem secondAfter_le_iff {next : Instant} (ht : t.NotLeap) (hu : u.NotLeap)
    (hnext : next.NotLeap) (hnanos : t.nanos = 0) (hstamp : next.stamp = t.stamp + 1000000000)
    (h : t ≤ u) : next ≤ u ↔ t.components ≠ u.components := by
  have hc := u.clock_lt
  rw [← stamp_le_iff hnext hu, hstamp]
  rcases h.eq_or_lt with rfl | hlt
  · refine ⟨fun hle => ?_, fun hne => absurd rfl hne⟩
    omega
  rcases seconds_lt_of_lt ht hlt with hseconds | ⟨hsame, _⟩
  · have hne : t.components ≠ u.components :=
      fun hsame => absurd (seconds_eq_of_components hsame) (ne_of_lt hseconds)
    refine ⟨fun _ => hne, fun _ => ?_⟩
    unfold stamp
    omega
  · have hseconds := seconds_eq_of_components hsame
    refine ⟨fun hle => ?_, fun hne => absurd hsame hne⟩
    unfold stamp at hle
    omega

end Instant
end TableView
