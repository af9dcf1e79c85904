import TableView.Proofs.Calendar.Succession

/-! Dates in the order of time, and the date on which an instant falls: only the last second of a
day ends on another date than it starts. -/
namespace TableView

namespace Date

variable {d e f : Date}

/-- All that tells a date, the coarsest first. -/
def key (d : Date) : ℤ ×ₗ ℕ ×ₗ ℕ := toLex (d.year, toLex (d.month, d.day))

theorem key_injective : Function.Injective key := by
  rintro ⟨_, _, _, _⟩ ⟨_, _, _, _⟩ h
  simpa [key] using h

instance : LinearOrder Date := LinearOrder.lift' key key_injective

theorem le_iff : d ≤ e ↔ d.year < e.year ∨ d.year = e.year ∧
    (d.month < e.month ∨ d.month = e.month ∧ d.day ≤ e.day) := by
  change d.key ≤ e.key ↔ _
  simp only [key, Prod.Lex.toLex_le_toLex]

theorem lt_iff : d < e ↔ d.year < e.year ∨ d.year = e.year ∧
    (d.month < e.month ∨ d.month = e.month ∧ d.day < e.day) := by
  change d.key < e.key ↔ _
  simp only [key, Prod.Lex.toLex_lt_toLex]

theorem lt_of_next? (h : d.next? = some e) : d < e := by
  have hnext := next?_eq_some_iff.mp h
  rw [lt_iff]
  omega

/-- Nothing lies between a date and the next one. -/
theorem between_next? (h : d.next? = some e) : d ≤ f ∧ f ≤ e ↔ f = d ∨ f = e := by
  have hf := isValid_iff.mp f.valid
  have hdays := (daysInMonth_mem f.year f.month).2
  have hnext := next?_eq_some_iff.mp h
  rw [le_iff, le_iff]
  constructor
  · rintro ⟨hfrom, hto⟩
    have hmonth : f.year = d.year → f.month = d.month →
        daysInMonth f.year f.month = daysInMonth d.year d.month := by
      intro hy hm
      rw [hy, hm]
    have hsame : (f.year = d.year ∧ f.month = d.month ∧ f.day = d.day) ∨
        (f.year = e.year ∧ f.month = e.month ∧ f.day = e.day) := by omega
    exact hsame.imp (fun hs => Date.ext hs.1 hs.2.1 hs.2.2) fun hs => Date.ext hs.1 hs.2.1 hs.2.2
  · rintro (rfl | rfl) <;> omega

end Date

namespace Instant

variable {t u : Instant} {d : Date}

theorem midnight_le_iff : midnight d ≤ t ↔ d ≤ t.date := by
  rw [le_iff, Date.le_iff]
  simp only [midnight]
  omega

theorem date_le_of_le (h : t ≤ u) : t.date ≤ u.date := by
  rw [le_iff] at h
  rw [Date.le_iff]
  omega

/-- In the last second of a day. -/
def EndsDay (t : Instant) : Prop := t.hour = 23 ∧ t.minute = 59 ∧ t.second = 59

theorem date_nextSecond? (ht : t.NotLeap) (h : t.nextSecond? = some u) :
    ¬ t.EndsDay ∧ u.date = t.date ∨ t.EndsDay ∧ t.date.next? = some u.date := by
  rw [NotLeap] at ht
  unfold EndsDay
  rcases nextSecond?_eq_some_iff.mp h with ⟨_, hdate, _⟩ | ⟨hsecond, hm⟩
  · exact Or.inl ⟨by omega, hdate⟩
  rcases nextMinute?_eq_some_iff.mp hm with ⟨hdate, _⟩ | ⟨hminute, hh⟩
  · have hu := u.clock_lt
    exact Or.inl ⟨by omega, hdate⟩
  rcases nextHour?_eq_some_iff.mp hh with ⟨hdate, _⟩ | ⟨hhour, hday⟩
  · have hu := u.clock_lt
    exact Or.inl ⟨by omega, hdate⟩
  · exact Or.inr ⟨⟨hhour, hminute, by omega⟩, (nextDay?_eq_some_iff.mp hday).2⟩

end Instant
end TableView
