import TableView.Proofs.Calendar.Days
import TableView.Proofs.Sql.Condition

/-! Conditions on dates and timestamps: a database compares them in the order of time. -/
namespace TableView

/-- An instant stands to a bound as the operator says. -/
def RangeOperator.Holds : RangeOperator → Instant → Instant → Prop
  | gt, t, bound => bound < t
  | gte, t, bound => bound ≤ t
  | lt, t, bound => t < bound
  | lte, t, bound => t ≤ bound

/-- The instant of a period that an operator compares with. -/
def Period.bound (p : Period) (op : RangeOperator) : Instant :=
  if op.usesEnd then p.last else p.start

namespace Date

variable {d e : Date}

theorem isLE_compare : (d.compare e).isLE = true ↔ d ≤ e := by
  simp only [compare, Ordering.isLE_then_iff_or, compare_lt_iff_lt, compare_eq_iff_eq,
    Nat.isLE_compare, le_iff]

theorem compare_eq_lt : d.compare e = .lt ↔ d < e := by
  simp only [compare, Ordering.then_eq_lt, compare_lt_iff_lt, compare_eq_iff_eq, lt_iff]

theorem isGE_compare : (d.compare e).isGE = true ↔ e ≤ d := by
  rw [Ordering.isGE_iff_ne_lt, compare_eq_lt, not_lt]

end Date

namespace Instant

variable {t u : Instant}

theorem compare_eq_lt : t.compare u = .lt ↔ t < u := by
  simp only [compare, Date.compare, Ordering.then_eq_lt, Ordering.then_eq_eq, compare_lt_iff_lt,
    compare_eq_iff_eq, lt_iff]
  tauto

theorem isLE_compare : (t.compare u).isLE = true ↔ t ≤ u := by
  simp only [compare, Date.compare, Ordering.isLE_then_iff_or, Ordering.then_eq_lt,
    Ordering.then_eq_eq, compare_lt_iff_lt, compare_eq_iff_eq, Nat.isLE_compare, le_iff]
  tauto

theorem isGE_compare : (t.compare u).isGE = true ↔ u ≤ t := by
  rw [Ordering.isGE_iff_ne_lt, compare_eq_lt, not_lt]

theorem compare_eq_gt : t.compare u = .gt ↔ u < t := by
  rw [← not_le, ← isLE_compare]
  cases t.compare u <;> decide

end Instant

namespace Sql
open Text (CaseFolding)

variable {F : CaseFolding} {caps : Capabilities} {c : ColumnData} {r : Row} {v : Param}
  {t u : Instant} {d e : Date} {op : RangeOperator} {p : Period}

theorem Comparison.gte_timestamp :
    gte.truth v (.timestamp t) = .yes ↔ ∃ u, v = .timestamp u ∧ t ≤ u := by
  cases v <;> simp [truth, Param.compare?, accepts, Instant.isGE_compare]

theorem Comparison.lte_timestamp :
    lte.truth v (.timestamp t) = .yes ↔ ∃ u, v = .timestamp u ∧ u ≤ t := by
  cases v <;> simp [truth, Param.compare?, accepts, Instant.isLE_compare]

theorem Comparison.ofRange_timestamp : (ofRange op).truth v (.timestamp u) = .yes ↔
    ∃ t, v = .timestamp t ∧ op.Holds t u := by
  cases v <;> cases op <;>
    simp [ofRange, truth, Param.compare?, accepts, RangeOperator.Holds, Instant.isLE_compare,
      Instant.isGE_compare, Instant.compare_eq_lt, Instant.compare_eq_gt]

theorem Comparison.gte_date : gte.truth v (.date d) = .yes ↔ ∃ e, v = .date e ∧ d ≤ e := by
  cases v <;> simp [truth, Param.compare?, accepts, Date.isGE_compare]

theorem Comparison.lte_date : lte.truth v (.date d) = .yes ↔ ∃ e, v = .date e ∧ e ≤ d := by
  cases v <;> simp [truth, Param.compare?, accepts, Date.isLE_compare]

theorem Predicate.between_dates {field : String} :
    ((between field (.date d) (.date e)).condition caps).truth F r = .yes ↔
      ∃ f, r field = .date f ∧ d ≤ f ∧ f ≤ e := by
  simp only [between, condition, operand, Condition.truth, Expr.value, Truth.and_eq_yes,
    Comparison.gte_date, Comparison.lte_date]
  constructor
  · rintro ⟨⟨f, hf, hd⟩, g, hg, he⟩
    obtain rfl : f = g := Param.date.inj (hf.symm.trans hg)
    exact ⟨f, hf, hd, he⟩
  · rintro ⟨f, hf, hd, he⟩
    exact ⟨⟨f, hf, hd⟩, f, hf, he⟩

theorem Predicate.between_timestamps {field : String} :
    ((between field (.timestamp t) (.timestamp u)).condition caps).truth F r = .yes ↔
      ∃ v, r field = .timestamp v ∧ t ≤ v ∧ v ≤ u := by
  simp only [between, condition, operand, Condition.truth, Expr.value, Truth.and_eq_yes,
    Comparison.gte_timestamp, Comparison.lte_timestamp]
  constructor
  · rintro ⟨⟨v, hv, ht⟩, w, hw, hu⟩
    obtain rfl : v = w := Param.timestamp.inj (hv.symm.trans hw)
    exact ⟨v, hv, ht, hu⟩
  · rintro ⟨v, hv, ht, hu⟩
    exact ⟨⟨v, hv, ht⟩, v, hv, hu⟩

/-- A date term selects the timestamps of its period. -/
theorem Predicate.range_datetime (hc : c.kind = .datetime) :
    ((ofTerm c (.range p)).condition caps).truth F r = .yes ↔
      ∃ t, r c.backendField = .timestamp t ∧ p.start ≤ t ∧ t ≤ p.last := by
  rw [ofTerm, ofRange, hc]
  exact between_timestamps

/-- On a column of dates it selects those on which its period starts and ends and all between. -/
theorem Predicate.range_date (hc : c.kind = .date) :
    ((ofTerm c (.range p)).condition caps).truth F r = .yes ↔
      ∃ d, r c.backendField = .date d ∧ p.start.date ≤ d ∧ d ≤ p.last.date := by
  rw [ofTerm, ofRange, hc]
  exact between_dates

/-- On a column with an operator it selects the timestamps that stand so to one end of its
period. -/
theorem Predicate.range_dateRange (hc : c.kind = .dateRange op) :
    ((ofTerm c (.range p)).condition caps).truth F r = .yes ↔
      ∃ t, r c.backendField = .timestamp t ∧ op.Holds t (p.bound op) := by
  rw [ofTerm, ofRange, hc]
  exact Comparison.ofRange_timestamp

end Sql
end TableView
