import Mathlib.Data.Int.Order.Basic
import Mathlib.Data.Prod.Lex
import TableView.Calendar.Instant

/-! Dates and instants in the order of time: the first component that differs decides. -/
namespace TableView

/-- Year, month, day, hour, minute and second of the calendar, the years counted from 0. -/
def IsDateTime : List Nat → Prop
  | [year, month, day, hour, minute, second] =>
    year ≤ 262142 ∧ (1 ≤ month ∧ month ≤ 12) ∧ (1 ≤ day ∧ day ≤ daysInMonth year month) ∧
      hour < 24 ∧ minute < 60 ∧ second < 60
  | _ => False

namespace Date

variable {d e : Date} {year : Int} {month day : Nat}

theorem isValid_iff : isValid year month day = true ↔
    (firstYear ≤ year ∧ year ≤ lastYear) ∧ (1 ≤ month ∧ month ≤ 12) ∧
      1 ≤ day ∧ day ≤ daysInMonth year month := by
  simp [isValid, and_assoc]

theorem ofParts?_eq_some :
    ofParts? year month day = some e ↔ e.year = year ∧ e.month = month ∧ e.day = day := by
  unfold ofParts?
  split
  · rw [Option.some.injEq]
    cases e
    simp [eq_comm]
  · next h =>
    simp only [reduceCtorEq, false_iff]
    rintro ⟨rfl, rfl, rfl⟩
    exact h e.valid

theorem ofParts?_eq_none :
    ofParts? year month day = none ↔ ¬ isValid year month day = true := by
  unfold ofParts?
  split <;> simp_all

theorem daysInMonth_mem (year : Int) (month : Nat) :
    28 ≤ daysInMonth year month ∧ daysInMonth year month ≤ 31 := by
  unfold daysInMonth
  split <;> (try split) <;> omega

theorem month_day_lt (d : Date) : d.month < 100 ∧ d.day < 100 := by
  have hmonth := d.month_mem
  have hday := d.day_mem
  have hdays := (daysInMonth_mem d.year d.month).2
  omega

end Date

namespace Instant

variable {t u : Instant} {date : Date} {hour minute second nanos : Nat}

theorem ofParts?_eq_some : ofParts? date hour minute second nanos = some u ↔
    u.date = date ∧ u.hour = hour ∧ u.minute = minute ∧ u.second = second ∧ u.nanos = nanos := by
  unfold ofParts?
  split
  · rw [Option.some.injEq]
    cases u
    simp [eq_comm]
  · next h =>
    simp only [reduceCtorEq, false_iff]
    rintro ⟨rfl, rfl, rfl, rfl, rfl⟩
    exact h u.valid

theorem ofClock?_eq_some : ofClock? date hour minute second nanos = some u ↔ u.second < 60 ∧
    u.date = date ∧ u.hour = hour ∧ u.minute = minute ∧ u.second = second ∧ u.nanos = nanos := by
  unfold ofClock?
  split
  · next h =>
    rw [ofParts?_eq_some]
    constructor
    · intro hu
      exact ⟨by omega, hu⟩
    · exact And.right
  · simp only [reduceCtorEq, false_iff]
    rintro ⟨hlt, _, _, _, rfl, _⟩
    contradiction

theorem ofClock?_eq_none : ofClock? date hour minute second nanos = none ↔
    ¬ (hour < 24 ∧ minute < 60 ∧ second < 60 ∧ nanos < 1000000000) := by
  unfold ofClock? ofParts?
  split
  · split
    · next h =>
      simp only [isClock, Bool.and_eq_true, decide_eq_true_eq] at h
      simp only [reduceCtorEq, false_iff, not_not]
      omega
    · next h =>
      simp only [isClock, Bool.and_eq_true, decide_eq_true_eq] at h
      simp only [true_iff]
      omega
  · simp only [true_iff]
    omega

/-- Year, month, day, hour, minute and second. -/
def components (t : Instant) : List Int :=
  [t.date.year, t.date.month, t.date.day, t.hour, t.minute, t.second]

/-- The first components of an instant are these numbers. -/
def Shows (t : Instant) (numbers : List Nat) : Prop :=
  t.components.take numbers.length = numbers.map fun (n : Nat) => (n : Int)

theorem Shows.shorten {few many : List Nat} (h : few <+: many) (ht : t.Shows many) :
    t.Shows few := by
  have htake := congrArg (List.take few.length) ht
  rwa [List.take_take, Nat.min_eq_left h.length_le, ← List.map_take,
    ← List.prefix_iff_eq_take.mp h] at htake

/-- Not within a leap second. -/
def NotLeap (t : Instant) : Prop := t.second < 60

/-- At a whole number of milliseconds, and not within a leap second. -/
def IsWholeMilli (t : Instant) : Prop := t.NotLeap ∧ t.nanos % 1000000 = 0

/-- All that tells an instant, the coarsest first. -/
def key (t : Instant) : ℤ ×ₗ ℕ ×ₗ ℕ ×ₗ ℕ ×ₗ ℕ ×ₗ ℕ ×ₗ ℕ :=
  toLex (t.date.year, toLex (t.date.month, toLex (t.date.day, toLex (t.hour, toLex (t.minute,
    toLex (t.second, t.nanos))))))

theorem key_injective : Function.Injective key := by
  rintro ⟨⟨_, _, _, _⟩, _, _, _, _, _⟩ ⟨⟨_, _, _, _⟩, _, _, _, _, _⟩ h
  simpa [key, and_assoc] using h

instance : LinearOrder Instant := LinearOrder.lift' key key_injective

theorem le_iff : t ≤ u ↔ t.date.year < u.date.year ∨ t.date.year = u.date.year ∧
    (t.date.month < u.date.month ∨ t.date.month = u.date.month ∧
      (t.date.day < u.date.day ∨ t.date.day = u.date.day ∧
        (t.hour < u.hour ∨ t.hour = u.hour ∧ (t.minute < u.minute ∨ t.minute = u.minute ∧
          (t.second < u.second ∨ t.second = u.second ∧ t.nanos ≤ u.nanos))))) := by
  change t.key ≤ u.key ↔ _
  simp only [key, Prod.Lex.toLex_le_toLex]

theorem lt_iff : t < u ↔ t.date.year < u.date.year ∨ t.date.year = u.date.year ∧
    (t.date.month < u.date.month ∨ t.date.month = u.date.month ∧
      (t.date.day < u.date.day ∨ t.date.day = u.date.day ∧
        (t.hour < u.hour ∨ t.hour = u.hour ∧ (t.minute < u.minute ∨ t.minute = u.minute ∧
          (t.second < u.second ∨ t.second = u.second ∧ t.nanos < u.nanos))))) := by
  change t.key < u.key ↔ _
  simp only [key, Prod.Lex.toLex_lt_toLex]

theorem exists_shows {values : List Nat} (h : IsDateTime values) (hnanos : nanos < 1000000000) :
    ∃ t : Instant, t.Shows values ∧ t.NotLeap ∧ t.nanos = nanos := by
  unfold IsDateTime at h
  split at h
  · next year month day hour minute second =>
    obtain ⟨hyear, hmonth, hday, hhour, hminute, hsecond⟩ := h
    have hdate : Date.isValid year month day = true := by
      rw [Date.isValid_iff, firstYear, lastYear]
      omega
    have hclock : isClock hour minute second nanos = true := by
      simp only [isClock, Bool.and_eq_true, decide_eq_true_eq]
      omega
    exact ⟨⟨⟨year, month, day, hdate⟩, hour, minute, second, nanos, hclock⟩, rfl, hsecond, rfl⟩
  · exact h.elim

theorem isDateTime_of_shows {values : List Nat} (hlength : values.length = 6) (ht : t.NotLeap)
    (h : t.Shows values) : IsDateTime values := by
  obtain ⟨year, month, day, hour, minute, second, rfl⟩ :
      ∃ year month day hour minute second, values = [year, month, day, hour, minute, second] := by
    match values, hlength with
    | [year, month, day, hour, minute, second], _ =>
      exact ⟨year, month, day, hour, minute, second, rfl⟩
  simp only [Shows, components, List.length_cons, List.length_nil, List.take_succ_cons,
    List.take_zero, List.map_cons, List.map_nil, List.cons.injEq, Int.natCast_inj, and_true] at h
  obtain ⟨hyear, rfl, rfl, rfl, rfl, rfl⟩ := h
  have hdate := Date.isValid_iff.mp t.date.valid
  have hclock := t.clock_lt
  rw [NotLeap] at ht
  rw [hyear, lastYear] at hdate
  exact ⟨by omega, by omega, hdate.2.2, by omega, by omega, ht⟩

end Instant
end TableView
