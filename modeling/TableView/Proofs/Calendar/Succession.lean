import TableView.Proofs.Calendar.Order
import TableView.Term.Period

/-! What follows a date or an instant, and the millisecond before that: together they bound the
years, months, days, hours and minutes of the calendar. -/
namespace TableView

namespace Date

variable {d e : Date}

theorem daysInMonth_of_december (h : d.month = 12) : daysInMonth d.year d.month = 31 := by
  rw [h]
  rfl

/-- A day of the same month follows, or the first of the next month, or the first of January. -/
theorem next?_eq_some_iff : d.next? = some e ↔
    (e.year = d.year ∧ e.month = d.month ∧ e.day = d.day + 1) ∨
      (d.day = daysInMonth d.year d.month ∧ e.year = d.year ∧ e.month = d.month + 1 ∧
        e.day = 1) ∨
      d.month = 12 ∧ d.day = 31 ∧ e.year = d.year + 1 ∧ e.month = 1 ∧ e.day = 1 := by
  have hd := isValid_iff.mp d.valid
  have he := isValid_iff.mp e.valid
  have hfirst := daysInMonth_pos d.year (d.month + 1)
  have hdecember : d.month = 12 → daysInMonth d.year d.month = 31 := daysInMonth_of_december
  simp only [next?, Option.orElse_eq_orElse, Option.orElse_eq_or, Option.or_eq_some_iff,
    Option.or_eq_none_iff, ofParts?_eq_some, ofParts?_eq_none, isValid_iff]
  constructor
  · rintro ((hday | ⟨hend, hmonth⟩) | ⟨⟨hend, hyear⟩, hday⟩)
    · exact Or.inl hday
    · exact Or.inr (Or.inl ⟨by omega, hmonth⟩)
    · exact Or.inr (Or.inr ⟨by omega, by omega, hday⟩)
  · rintro (hday | ⟨hend, hmonth⟩ | ⟨hmonth, hend, hday⟩)
    · exact Or.inl (Or.inl hday)
    · exact Or.inl (Or.inr ⟨by omega, hmonth⟩)
    · exact Or.inr ⟨⟨by omega, by omega⟩, hday⟩

/-- The last day of the calendar is the only one that none follows. -/
theorem next?_eq_none : d.next? = none ↔ d.year = lastYear ∧ d.month = 12 ∧ d.day = 31 := by
  have hd := isValid_iff.mp d.valid
  have hfirst := daysInMonth_pos d.year (d.month + 1)
  have hjanuary := daysInMonth_pos (d.year + 1) 1
  have hlast : d.month = 12 → daysInMonth d.year d.month = 31 := daysInMonth_of_december
  simp only [next?, Option.orElse_eq_orElse, Option.orElse_eq_or, Option.or_eq_none_iff,
    ofParts?_eq_none, isValid_iff]
  omega

/-- The day before is the one that the day follows. -/
theorem previous?_eq_some_iff : e.previous? = some d ↔ d.next? = some e := by
  have hd := isValid_iff.mp d.valid
  have he := isValid_iff.mp e.valid
  have hdecember : d.month = 12 → daysInMonth d.year d.month = 31 := daysInMonth_of_december
  have hprevious := daysInMonth_pos e.year (e.month - 1)
  rw [next?_eq_some_iff]
  simp only [previous?, Option.orElse_eq_orElse, Option.orElse_eq_or, Option.or_eq_some_iff,
    Option.or_eq_none_iff, ofParts?_eq_some, ofParts?_eq_none, isValid_iff]
  constructor
  · rintro ((hday | ⟨hfirst, hyear, hmonth, hday⟩) | ⟨⟨hfirst, hjanuary⟩, hday⟩)
    · omega
    · rw [← hyear, ← hmonth] at hday
      omega
    · omega
  · rintro (hday | ⟨hlast, hyear, hmonth, hday⟩ | hday)
    · omega
    · have hmonth' : e.month - 1 = d.month := by omega
      rw [hyear, hmonth', hday]
      omega
    · omega

def lastOfMonth (d : Date) : Date :=
  ⟨d.year, d.month, daysInMonth d.year d.month, by
    simp [isValid, d.year_mem, d.month_mem, daysInMonth_pos]⟩

def lastOfYear (d : Date) : Date :=
  ⟨d.year, 12, 31, by simp [isValid, d.year_mem, daysInMonth]⟩

end Date

namespace Instant

variable {t u : Instant} {e : Date}

def lastOfMinute (t : Instant) : Instant :=
  ⟨t.date, t.hour, t.minute, 59, 999000000, by simp [isClock, t.clock_lt]⟩

def lastOfHour (t : Instant) : Instant :=
  ⟨t.date, t.hour, 59, 59, 999000000, by simp [isClock, t.clock_lt]⟩

def lastOfDay (date : Date) : Instant := ⟨date, 23, 59, 59, 999000000, by decide⟩

theorem map_midnight_eq_some {o : Option Date} :
    o.map midnight = some u ↔ u = midnight u.date ∧ o = some u.date := by
  rw [Option.map_eq_some_iff]
  constructor
  · rintro ⟨e, rfl, rfl⟩
    exact ⟨rfl, rfl⟩
  · rintro ⟨hu, ho⟩
    exact ⟨_, ho, hu.symm⟩

theorem nextYear?_eq_some_iff : t.nextYear? = some u ↔ u = midnight u.date ∧
    u.date.year = t.date.year + 1 ∧ u.date.month = 1 ∧ u.date.day = 1 := by
  rw [nextYear?, map_midnight_eq_some, Date.ofParts?_eq_some]

theorem nextMonth?_eq_some_iff : t.nextMonth? = some u ↔ u = midnight u.date ∧
    ((u.date.year = t.date.year ∧ u.date.month = t.date.month + 1 ∧ u.date.day = 1) ∨
      t.date.month = 12 ∧ u.date.year = t.date.year + 1 ∧ u.date.month = 1 ∧ u.date.day = 1) := by
  have ht := Date.isValid_iff.mp t.date.valid
  have hu := Date.isValid_iff.mp u.date.valid
  have hfirst := Date.daysInMonth_pos t.date.year (t.date.month + 1)
  rw [nextMonth?, map_midnight_eq_some]
  simp only [Option.orElse_eq_orElse, Option.orElse_eq_or, Option.or_eq_some_iff,
    Date.ofParts?_eq_some, Date.ofParts?_eq_none, Date.isValid_iff]
  refine and_congr_right fun _ => ?_
  omega

theorem nextDay?_eq_some_iff :
    t.nextDay? = some u ↔ u = midnight u.date ∧ t.date.next? = some u.date := by
  rw [nextDay?, map_midnight_eq_some]

theorem nextHour?_eq_some_iff : t.nextHour? = some u ↔
    (u.date = t.date ∧ u.hour = t.hour + 1 ∧ u.minute = 0 ∧ u.second = 0 ∧ u.nanos = 0) ∨
      t.hour = 23 ∧ t.nextDay? = some u := by
  have ht := t.clock_lt
  have hu := u.clock_lt
  simp only [nextHour?, Option.orElse_eq_orElse, Option.orElse_eq_or, Option.or_eq_some_iff,
    ofClock?_eq_some, ofClock?_eq_none]
  grind

theorem nextMinute?_eq_some_iff : t.nextMinute? = some u ↔
    (u.date = t.date ∧ u.hour = t.hour ∧ u.minute = t.minute + 1 ∧ u.second = 0 ∧ u.nanos = 0) ∨
      t.minute = 59 ∧ t.nextHour? = some u := by
  have ht := t.clock_lt
  have hu := u.clock_lt
  simp only [nextMinute?, Option.orElse_eq_orElse, Option.orElse_eq_or, Option.or_eq_some_iff,
    ofClock?_eq_some, ofClock?_eq_none]
  grind

theorem nextSecond?_eq_some_iff : t.nextSecond? = some u ↔
    (u.second < 60 ∧ u.date = t.date ∧ u.hour = t.hour ∧ u.minute = t.minute ∧
        u.second = t.second + 1 ∧ u.nanos = 0) ∨
      59 ≤ t.second ∧ t.nextMinute? = some u := by
  have ht := t.clock_lt
  have hu := u.clock_lt
  simp only [nextSecond?, Option.orElse_eq_orElse, Option.orElse_eq_or, Option.or_eq_some_iff,
    ofClock?_eq_some, ofClock?_eq_none]
  grind

theorem nextYear?_eq_none : t.nextYear? = none ↔ t.date.year = lastYear := by
  have ht := Date.isValid_iff.mp t.date.valid
  have hjanuary := Date.daysInMonth_pos (t.date.year + 1) 1
  rw [nextYear?, Option.map_eq_none_iff, Date.ofParts?_eq_none, Date.isValid_iff]
  omega

theorem nextMonth?_eq_none :
    t.nextMonth? = none ↔ t.date.year = lastYear ∧ t.date.month = 12 := by
  have ht := Date.isValid_iff.mp t.date.valid
  have hjanuary := Date.daysInMonth_pos (t.date.year + 1) 1
  have hfirst := Date.daysInMonth_pos t.date.year (t.date.month + 1)
  simp only [nextMonth?, Option.map_eq_none_iff, Option.orElse_eq_orElse, Option.orElse_eq_or,
    Option.or_eq_none_iff, Date.ofParts?_eq_none, Date.isValid_iff]
  omega

theorem nextDay?_eq_none : t.nextDay? = none ↔
    t.date.year = lastYear ∧ t.date.month = 12 ∧ t.date.day = 31 := by
  rw [nextDay?, Option.map_eq_none_iff, Date.next?_eq_none]

theorem nextHour?_eq_none : t.nextHour? = none ↔ t.nextDay? = none ∧ t.hour = 23 := by
  have ht := t.clock_lt
  simp only [nextHour?, Option.orElse_eq_orElse, Option.orElse_eq_or, Option.or_eq_none_iff,
    ofClock?_eq_none]
  grind

theorem nextMinute?_eq_none : t.nextMinute? = none ↔ t.nextHour? = none ∧ t.minute = 59 := by
  have ht := t.clock_lt
  simp only [nextMinute?, Option.orElse_eq_orElse, Option.orElse_eq_or, Option.or_eq_none_iff,
    ofClock?_eq_none]
  grind

theorem nextSecond?_eq_none : t.nextSecond? = none ↔ t.nextMinute? = none ∧ 59 ≤ t.second := by
  have ht := t.clock_lt
  simp only [nextSecond?, Option.orElse_eq_orElse, Option.orElse_eq_or, Option.or_eq_none_iff,
    ofClock?_eq_none]
  grind

/-- Before the midnight that follows a day lies the last millisecond of that day. -/
theorem previousMilli?_midnight {d : Date} (hu : u = midnight u.date)
    (hd : d.next? = some u.date) : u.previousMilli? = some (lastOfDay d) := by
  have hprevious := Date.previous?_eq_some_iff.mpr hd
  rw [hu]
  simp [previousMilli?, midnight, hprevious, ofParts?_eq_some, lastOfDay]

theorem previousMilli?_nextYear? (h : t.nextYear? = some u) :
    u.previousMilli? = some (lastOfDay t.date.lastOfYear) := by
  obtain ⟨hu, hdate⟩ := nextYear?_eq_some_iff.mp h
  exact previousMilli?_midnight hu (Date.next?_eq_some_iff.mpr (Or.inr (Or.inr ⟨rfl, rfl, hdate⟩)))

theorem previousMilli?_nextMonth? (h : t.nextMonth? = some u) :
    u.previousMilli? = some (lastOfDay t.date.lastOfMonth) := by
  obtain ⟨hu, hdate⟩ := nextMonth?_eq_some_iff.mp h
  apply previousMilli?_midnight hu
  rw [Date.next?_eq_some_iff]
  rcases hdate with hdate | ⟨hmonth, hdate⟩
  · exact Or.inr (Or.inl ⟨rfl, hdate⟩)
  · exact Or.inr (Or.inr ⟨hmonth, Date.daysInMonth_of_december hmonth, hdate⟩)

theorem previousMilli?_nextDay? (h : t.nextDay? = some u) :
    u.previousMilli? = some (lastOfDay t.date) := by
  obtain ⟨hu, hdate⟩ := nextDay?_eq_some_iff.mp h
  exact previousMilli?_midnight hu hdate

theorem previousMilli?_nextHour? (h : t.nextHour? = some u) :
    u.previousMilli? = some t.lastOfHour := by
  rcases nextHour?_eq_some_iff.mp h with ⟨hdate, hhour, hminute, hsecond, hnanos⟩ | ⟨hhour, hday⟩
  · simp [previousMilli?, hnanos, hsecond, hminute, hhour, hdate, ofParts?_eq_some, lastOfHour]
  · rw [previousMilli?_nextDay? hday]
    simp [lastOfHour, lastOfDay, hhour]

theorem previousMilli?_nextMinute? (h : t.nextMinute? = some u) :
    u.previousMilli? = some t.lastOfMinute := by
  rcases nextMinute?_eq_some_iff.mp h with ⟨hdate, hhour, hminute, hsecond, hnanos⟩ | ⟨hminute, hh⟩
  · simp [previousMilli?, hnanos, hsecond, hminute, hhour, hdate, ofParts?_eq_some, lastOfMinute]
  · rw [previousMilli?_nextHour? hh]
    simp [lastOfHour, lastOfMinute, hminute]

end Instant
end TableView
