import TableView.Proofs.Calendar.Written
import TableView.Proofs.Index.Documents
import TableView.Proofs.Term.Operators

/-! Range queries over instants. Their bounds are written in milliseconds; a bound that is cut there
selects the same documents after an instant or up to it, but not from it on or before it. -/
namespace TableView

namespace Instant

variable {t u : Instant}

theorem cut_le (t : Instant) : t.cut ≤ t := by
  have hnanos : t.cut.nanos ≤ t.nanos := Nat.div_mul_le_self _ _
  rw [le_iff]
  exact Or.inr ⟨rfl, Or.inr ⟨rfl, Or.inr ⟨rfl, Or.inr ⟨rfl, Or.inr ⟨rfl, Or.inr ⟨rfl, hnanos⟩⟩⟩⟩⟩⟩

theorem cut_eq_self_iff : t.cut = t ↔ t.nanos % 1000000 = 0 := by
  constructor
  · intro h
    have hnanos : t.nanos / 1000000 * 1000000 = t.nanos := congrArg Instant.nanos h
    omega
  · intro h
    have hnanos : t.nanos / 1000000 * 1000000 = t.nanos := by omega
    obtain ⟨date, hour, minute, second, nanos, valid⟩ := t
    simp only [cut, Instant.mk.injEq, true_and]
    exact hnanos

/-- No whole millisecond lies between an instant and what it is cut to. -/
theorem cut_lt_iff (h : t.nanos % 1000000 = 0) : u.cut < t ↔ u < t := by
  rw [lt_iff, lt_iff]
  simp only [cut]
  omega

end Instant

namespace RangeOperator
open Instant

variable {op : RangeOperator} {t u : Instant}

theorem word_injective : Function.Injective word := by
  intro a b h
  cases a <;> cases b <;> first | rfl | exact absurd h (by decide)

theorem from_cut_iff (h : t.nanos % 1000000 = 0) :
    (u ≤ t ↔ u.cut ≤ t) ↔ ¬ (t = u.cut ∧ u.cut ≠ u) := by
  by_cases heq : t = u.cut
  · obtain rfl := heq
    have hself : u ≤ u.cut ↔ u.cut = u := (cut_le u).ge_iff_eq
    simp only [hself, le_refl, true_and, iff_true, not_not]
  · have hne : u.cut ≠ t := fun hsame => heq hsame.symm
    have hfrom : u ≤ t ↔ u < t := by
      refine ⟨fun hle => ?_, le_of_lt⟩
      rw [← cut_lt_iff h]
      exact lt_of_le_of_ne ((cut_le u).trans hle) hne
    have hcut : u.cut ≤ t ↔ u < t := by
      rw [← cut_lt_iff h]
      exact ⟨fun hle => lt_of_le_of_ne hle hne, le_of_lt⟩
    simp only [hfrom, hcut, heq, false_and, not_false_eq_true]

/-- A bound may be cut to milliseconds, unless the instant is what it is cut to. -/
theorem holds_cut_iff (h : t.nanos % 1000000 = 0) :
    (op.Holds t u ↔ op.Holds t u.cut) ↔ ¬ ((op = gte ∨ op = lt) ∧ t = u.cut ∧ u.cut ≠ u) := by
  cases op with
  | gt => simp [Holds, cut_lt_iff h]
  | lte => simp [Holds, ← not_lt, cut_lt_iff h]
  | gte => simpa [Holds] using from_cut_iff h
  | lt =>
    simp only [Holds, ← not_le, not_iff_not, from_cut_iff h]
    simp

end RangeOperator

namespace Index

/-- An instant keeps to a bound written under the word of an operator. -/
def KeepsTo (t : Instant) : String × Json → Prop
  | (word, .str text) => ∃ op bound, RangeOperator.word op = word ∧
      Instant.readMilli? text.toList = some bound ∧ op.Holds t bound
  | _ => False

/-- The documents that satisfy a range query: their field holds an instant within all bounds. -/
def Document.InRange (d : Document) : Json → Prop
  | .obj [("range", .obj [(field, .obj bounds)])] =>
    ∃ t, d.value field = .timestamp t ∧ ∀ bound ∈ bounds, KeepsTo t bound
  | _ => False

variable {d : Document} {c : ColumnData} {op : RangeOperator} {p : Period} {t u : Instant}
  {raw searchField : String}

theorem keepsTo_iff : KeepsTo t (op.word, .str u.milliText) ↔ op.Holds t u.cut := by
  simp only [KeepsTo, Instant.readMilli?_milliText, Option.some.injEq]
  constructor
  · rintro ⟨other, bound, hword, rfl, hholds⟩
    rwa [← RangeOperator.word_injective hword]
  · intro hholds
    exact ⟨op, u.cut, rfl, rfl, hholds⟩

/-- A date term on a column with an operator selects the instants that stand so to one end of its
period, cut to milliseconds. -/
theorem inRange_ofTerm (hc : c.kind = .dateRange op) (ht : d.value c.backendField = .timestamp t) :
    d.InRange (Clause.ofTerm c raw searchField (.range p)).clause.toJson ↔
      op.Holds t (p.bound op).cut := by
  have hfield : c.clauseField = c.backendField := by rw [ColumnData.clauseField, hc]
  rw [Clause.ofTerm, Clause.ofRange, hc]
  simp only [Placed.clause, Clause.toJson, Clause.onField, Clause.single, Document.InRange, hfield,
    ht, Sql.Param.timestamp.injEq, exists_eq_left', List.forall_mem_singleton]
  exact keepsTo_iff

end Index

namespace Term

variable {raw : String} {p : Period} {c : ColumnData} {op : RangeOperator} {t : Instant}

theorem cut_start_ne_iff (h : period raw = .ok p) : p.start.cut ≠ p.start ↔
    ∃ run ∈ (digitRuns raw)[6]?, ¬ 1000 ∣ ⌊fraction run * 1000000⌋₊ := by
  rw [Ne, Instant.cut_eq_self_iff, nanos_start h]
  cases (digitRuns raw)[6]? with
  | none => simp
  | some run =>
    simp only [Option.map_some, Option.getD_some, Option.mem_def, Option.some.injEq,
      exists_eq_left', ← micros_eq_floor]
    omega

/-- A date term with an operator selects the same whole milliseconds in a database and in an index,
but for the one that a fraction longer than milliseconds is cut to: in an index it is on or after
the instant that the term names. -/
theorem range_on_both_sides (h : period raw = .ok p) (hc : c.kind = .dateRange op)
    (F : Text.CaseFolding) (caps : Sql.Capabilities) (searchField : String) (d : Index.Document)
    (ht : d.value c.backendField = .timestamp t) (hmilli : t.nanos % 1000000 = 0) :
    (((Sql.Predicate.ofTerm c (.range p)).condition caps).truth F d.value = .yes ↔
        d.InRange (Index.Clause.ofTerm c raw searchField (.range p)).clause.toJson) ↔
      ¬ ((op = .gte ∨ op = .lt) ∧ t = p.start.cut ∧
        ∃ run ∈ (digitRuns raw)[6]?, ¬ 1000 ∣ ⌊fraction run * 1000000⌋₊) := by
  rw [selects_iff_holds hc ht, Index.inRange_ofTerm hc ht, RangeOperator.holds_cut_iff hmilli,
    ← cut_start_ne_iff h]
  -- Only the operators that stop at the start of a period are affected.
  have hbound : op = .gte ∨ op = .lt → p.bound op = p.start := by
    rintro (rfl | rfl) <;> rfl
  rw [not_iff_not]
  constructor
  · rintro ⟨hop, hcut⟩
    rw [hbound hop] at hcut
    exact ⟨hop, hcut⟩
  · rintro ⟨hop, hcut⟩
    rw [← hbound hop] at hcut
    exact ⟨hop, hcut⟩

/-- From 123456 microseconds on: the index starts at 123 milliseconds. After it: both sides
agree. -/
theorem range_on_both_sides_micros :
    let raw := "2020-05-03 14:30:15.123456"
    let third : Date := ⟨2020, 5, 3, by decide⟩
    let instant : Instant := ⟨third, 14, 30, 15, 123456000, by decide⟩
    let p : Period := { start := instant, last := instant, precision := .point }
    let c := fun op =>
      ({ name := "due", backendField := "due_at", kind := .dateRange op } : ColumnData)
    let d : Index.Document := ⟨fun _ => .timestamp instant.cut, fun _ => false⟩
    let inDatabase := fun op => ((Sql.Predicate.ofTerm (c op) (.range p)).condition
      (.preset .sqlite)).truth .lowering d.value = .yes
    let inIndex := fun op =>
      d.InRange (Index.Clause.ofTerm (c op) raw "search" (.range p)).clause.toJson
    period raw = .ok p ∧ (inDatabase .gt ↔ inIndex .gt) ∧ ¬ inDatabase .gte ∧ inIndex .gte := by
  intro raw third instant p c d inDatabase inIndex
  have hdatabase : ¬ inDatabase .gte := by
    decide +kernel +revert
  have hp : period "2020-05-03 14:30:15.123456" = .ok p := rfl
  have hsides := fun op => range_on_both_sides hp (c := c op) rfl .lowering
    (.preset .sqlite) "search" d rfl (by decide)
  have hlong := (cut_start_ne_iff hp).mp (by decide)
  have hafter : inDatabase .gt ↔ inIndex .gt := (hsides .gt).mpr (by simp)
  have hfrom : ¬ (inDatabase .gte ↔ inIndex .gte) := fun hsame =>
    (hsides .gte).mp hsame ⟨Or.inl rfl, rfl, hlong⟩
  have hindex : inIndex .gte := by
    by_contra hnot
    exact hfrom (iff_of_false hdatabase hnot)
  exact ⟨hp, hafter, hdatabase, hindex⟩

end Term
end TableView
