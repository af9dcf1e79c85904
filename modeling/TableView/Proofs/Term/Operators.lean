import TableView.Proofs.Sql.Ranges
import TableView.Proofs.Term.Period

/-! Date ranges: the operators cut the time line at the two ends of a period, each of them into one
operator's side and that of its opposite. -/
namespace TableView

namespace RangeOperator

variable {op : RangeOperator} {t u : Instant}

end RangeOperator

namespace Term

open Sql (Predicate Capabilities)

variable {raw : String} {p : Period} {c : ColumnData} {F : Text.CaseFolding} {caps : Capabilities}
  {r : Row} {t : Instant}

theorem selects_iff_holds {op : RangeOperator} (hc : c.kind = .dateRange op)
    (ht : r c.backendField = .timestamp t) :
    ((Predicate.ofTerm c (.range p)).condition caps).truth F r = .yes ↔
      op.Holds t (p.bound op) := by
  rw [Predicate.range_dateRange hc, ht]
  simp only [Sql.Param.timestamp.injEq, exists_eq_left']

end Term
end TableView
