import Mathlib.Tactic.IntervalCases
import TableView.Proofs.Calendar.Timeline

/-! Years, months, days, hours, minutes and seconds as sets of instants: from the first instant to
the last millisecond, and what comes after them in the calendar. -/
namespace TableView

namespace Instant

/-- The last instant of the calendar. -/
def final : Instant := ⟨⟨lastYear, 12, 31, by decide⟩, 23, 59, 59, 999999999, by decide⟩

variable {s t u : Instant}

theorem notLeap_of_midnight (h : u = midnight u.date) : u.NotLeap := by
  rw [h]
  change 0 < 60
  decide

theorem lt_of_nextDay? (h : s.nextDay? = some u) (hdate : t.date = s.date) : t < u := by
  have hnext := Date.next?_eq_some_iff.mp (nextDay?_eq_some_iff.mp h).2
  rw [lt_iff, hdate]
  omega

theorem lt_of_nextHour? (h : s.nextHour? = some u) (hdate : t.date = s.date)
    (hhour : t.hour = s.hour) : t < u := by
  rcases nextHour?_eq_some_iff.mp h with ⟨hu, hnext, _⟩ | ⟨_, hday⟩
  · rw [lt_iff, hdate, hu]
    omega
  · exact lt_of_nextDay? hday hdate

theorem lt_of_nextMinute? (h : s.nextMinute? = some u) (hdate : t.date = s.date)
    (hhour : t.hour = s.hour) (hminute : t.minute = s.minute) : t < u := by
  rcases nextMinute?_eq_some_iff.mp h with ⟨hu, hsame, hnext, _⟩ | ⟨_, hh⟩
  · rw [lt_iff, hdate, hu]
    omega
  · exact lt_of_nextHour? hh hdate hhour

theorem lt_of_nextSecond? (h : s.nextSecond? = some u) (hdate : t.date = s.date)
    (hhour : t.hour = s.hour) (hminute : t.minute = s.minute) (hsecond : t.second = s.second) :
    t < u := by
  rcases nextSecond?_eq_some_iff.mp h with ⟨_, hu, hsame, hsame', hnext, _⟩ | ⟨_, hm⟩
  · rw [lt_iff, hdate, hu]
    omega
  · exact lt_of_nextMinute? hm hdate hhour hminute

theorem notLeap_of_nextHour? (h : s.nextHour? = some u) : u.NotLeap := by
  rcases nextHour?_eq_some_iff.mp h with ⟨_, _, _, hsecond, _⟩ | ⟨_, hday⟩
  · rw [NotLeap, hsecond]
    decide
  · exact notLeap_of_midnight (nextDay?_eq_some_iff.mp hday).1

theorem notLeap_of_nextMinute? (h : s.nextMinute? = some u) : u.NotLeap := by
  rcases nextMinute?_eq_some_iff.mp h with ⟨_, _, _, hsecond, _⟩ | ⟨_, hh⟩
  · rw [NotLeap, hsecond]
    decide
  · exact notLeap_of_nextHour? hh

theorem notLeap_of_nextSecond? (h : s.nextSecond? = some u) : u.NotLeap := by
  rcases nextSecond?_eq_some_iff.mp h with ⟨hlt, _⟩ | ⟨_, hm⟩
  · exact hlt
  · exact notLeap_of_nextMinute? hm

theorem le_final (ht : t.NotLeap) : t ≤ final := by
  have hd := Date.isValid_iff.mp t.date.valid
  have hdays := (Date.daysInMonth_mem t.date.year t.date.month).2
  have hc := t.clock_lt
  rw [NotLeap] at ht
  rw [le_iff]
  simp only [final]
  omega

end Instant

namespace Precision
open Instant

/-- How many components all instants of a period share. -/
def count : Precision → Nat
  | year => 1
  | month => 2
  | day => 3
  | hour => 4
  | minute => 5
  | second => 6
  | point => 7

/-- The last millisecond of a year, month, day, hour or minute. -/
def lastMilli : Precision → Instant → Instant
  | year, t => lastOfDay t.date.lastOfYear
  | month, t => lastOfDay t.date.lastOfMonth
  | day, t => lastOfDay t.date
  | hour, t => t.lastOfHour
  | minute, t => t.lastOfMinute
  | second, t | point, t => t

/-- Every component after the shared ones has its first value. -/
def Starts (p : Precision) (s : Instant) : Prop :=
  s.components.drop p.count = [0, 1, 1, 0, 0, 0].drop p.count ∧ s.nanos = 0

/-- Two instants lie in the same year, month, day, hour, minute or second. -/
def Same (p : Precision) (t u : Instant) : Prop :=
  t.components.take p.count = u.components.take p.count

variable {p : Precision} {s t u next : Instant}

theorem count_ofCount {n : Nat} (hpos : 1 ≤ n) (hle : n ≤ 6) : (ofCount n).count = n := by
  interval_cases n <;> rfl

theorem ofCount_of_le {n : Nat} (h : 7 ≤ n) : ofCount n = point := by
  unfold ofCount
  split <;> first | rfl | omega

theorem same_of_mem (hp : p.count ≤ 5) (hs : p.Starts s) (hst : s ≤ t)
    (hlast : t ≤ p.lastMilli s) : p.Same t s := by
  rw [le_iff] at hst hlast
  cases p <;>
    simp only [Starts, Same, count, components, lastMilli, lastOfDay, lastOfHour, lastOfMinute,
      Date.lastOfYear, Date.lastOfMonth, List.take_succ_cons, List.take_zero,
      List.drop_succ_cons, List.drop_zero, List.cons.injEq, and_true, Nat.cast_inj] at *
  all_goals omega

/-- Nothing in a period is earlier than its start. -/
theorem le_of_same (hp : p.count ≤ 6) (hs : p.Starts s) (h : p.Same t s) : s ≤ t := by
  have hd := Date.isValid_iff.mp t.date.valid
  rw [le_iff]
  cases p <;>
    simp only [Starts, Same, count, components, List.take_succ_cons, List.take_zero,
      List.drop_succ_cons, List.drop_zero, List.cons.injEq, and_true, Nat.cast_inj] at *
  all_goals omega

theorem notLeap_lastMilli (hp : p.count ≤ 5) : (p.lastMilli s).NotLeap := by
  cases p
  case second | point => exact absurd hp (by decide)
  all_goals exact (by decide : 59 < 60)

theorem nanos_lastMilli (hp : p.count ≤ 5) : (p.lastMilli s).nanos = 999000000 := by
  cases p
  case second | point => exact absurd hp (by decide)
  all_goals rfl

/-- Only what is left of the last second after its last millisecond goes beyond it. -/
theorem le_lastMilli_iff (hp : p.count ≤ 5) (ht : t.NotLeap) (h : p.Same t s) :
    t ≤ p.lastMilli s ↔
      ¬ (t.components = (p.lastMilli s).components ∧ 999000000 < t.nanos) := by
  have hd := Date.isValid_iff.mp t.date.valid
  have hc := t.clock_lt
  have hdays := (Date.daysInMonth_mem t.date.year t.date.month).2
  rw [NotLeap] at ht
  rw [le_iff]
  cases p <;>
    simp only [Same, count, components, lastMilli, lastOfDay, lastOfHour, lastOfMinute,
      Date.lastOfYear, Date.lastOfMonth, List.take_succ_cons, List.take_zero,
      List.cons.injEq, and_true, Nat.cast_inj] at *
  case month =>
    -- The month's length is that of the start's month.
    rw [h.1, h.2] at hd
    omega
  all_goals omega

theorem mem_of_same (hp : p.count ≤ 5) (hs : p.Starts s) (ht : t.IsWholeMilli)
    (h : p.Same t s) : s ≤ t ∧ t ≤ p.lastMilli s := by
  have hc := t.clock_lt
  have hmilli := ht.2
  refine ⟨le_of_same (by omega) hs h, (le_lastMilli_iff hp ht.1 h).mpr ?_⟩
  rintro ⟨_, hbeyond⟩
  omega

theorem date_eq_of_same (hp : 3 ≤ p.count) (h : p.Same t s) : t.date = s.date := by
  have htake := congrArg (List.take 3) h
  rw [List.take_take, List.take_take, Nat.min_eq_left hp] at htake
  simp only [components, List.take_succ_cons, List.take_zero, List.cons.injEq, and_true,
    Nat.cast_inj] at htake
  exact Date.ext htake.1 htake.2.1 htake.2.2

/-- What comes after a period comes after each of its instants. -/
theorem lt_next? (hp : p.count ≤ 6) (hnext : p.next? s = some u) (h : p.Same t s) : t < u := by
  have hdate := date_eq_of_same (p := p) (t := t) (s := s)
  cases p <;>
    simp only [Same, count, components, next?, List.take_succ_cons, List.take_zero,
      List.cons.injEq, and_true, Nat.cast_inj] at hp hnext h hdate
  case year =>
    have hu := nextYear?_eq_some_iff.mp hnext
    rw [lt_iff]
    omega
  case month =>
    have hu := nextMonth?_eq_some_iff.mp hnext
    rw [lt_iff]
    omega
  case day => exact lt_of_nextDay? hnext (hdate (by omega) h)
  case hour => exact lt_of_nextHour? hnext (hdate (by omega) h) h.2.2.2
  case minute => exact lt_of_nextMinute? hnext (hdate (by omega) h) h.2.2.2.1 h.2.2.2.2
  case second =>
    exact lt_of_nextSecond? hnext (hdate (by omega) h) h.2.2.2.1 h.2.2.2.2.1 h.2.2.2.2.2
  case point => omega

theorem notLeap_next? (hp : p.count ≤ 6) (hnext : p.next? s = some u) : u.NotLeap := by
  cases p
  case year => exact notLeap_of_midnight (nextYear?_eq_some_iff.mp hnext).1
  case month => exact notLeap_of_midnight (nextMonth?_eq_some_iff.mp hnext).1
  case day => exact notLeap_of_midnight (nextDay?_eq_some_iff.mp hnext).1
  case hour => exact notLeap_of_nextHour? hnext
  case minute => exact notLeap_of_nextMinute? hnext
  case second => exact notLeap_of_nextSecond? hnext
  case point => exact absurd hp (by decide)

/-- Nothing comes after a period only if it is the calendar's last one. -/
theorem same_final_of_next? (hp : p.count ≤ 6) (hs : s.NotLeap) (h : p.next? s = none) :
    p.Same final s := by
  rw [NotLeap] at hs
  cases p <;>
    simp only [Same, count, components, next?, List.take_succ_cons, List.take_zero, final,
      List.cons.injEq, and_true, Nat.cast_inj, nextYear?_eq_none, nextMonth?_eq_none,
      nextDay?_eq_none, nextHour?_eq_none, nextMinute?_eq_none, nextSecond?_eq_none] at hp h ⊢ <;>
    omega

/-- A period has a next one just when some instant of the calendar is later than all of its own. -/
theorem exists_next?_iff (hp : p.count ≤ 6) (hs : s.NotLeap) : (∃ u, p.next? s = some u) ↔
    ∃ u : Instant, u.NotLeap ∧ ∀ t, p.Same t s → t < u := by
  constructor
  · rintro ⟨u, hu⟩
    exact ⟨u, notLeap_next? hp hu, fun t ht => lt_next? hp hu ht⟩
  · rintro ⟨u, hu, hlater⟩
    cases hnext : p.next? s with
    | some next => exact ⟨next, rfl⟩
    | none =>
      have hfinal := hlater final (same_final_of_next? hp hs hnext)
      exact absurd (le_final hu) (not_le_of_gt hfinal)

theorem last?_of_next? (hp : p.count ≤ 5) (h : p.next? s = some u) :
    p.last? u = some (p.lastMilli s) := by
  cases p
  case year => exact previousMilli?_nextYear? h
  case month => exact previousMilli?_nextMonth? h
  case day => exact previousMilli?_nextDay? h
  case hour => exact previousMilli?_nextHour? h
  case minute => exact previousMilli?_nextMinute? h
  case second | point => exact absurd hp (by decide)

/-- The step back from what comes after a period never leaves the calendar. -/
theorem exists_last? (h : p.next? s = some u) : ∃ last, p.last? u = some last := by
  by_cases hp : p.count ≤ 5
  · exact ⟨_, last?_of_next? hp h⟩
  · cases p <;> first | exact ⟨u, rfl⟩ | exact absurd (by decide) hp

end Precision
end TableView
