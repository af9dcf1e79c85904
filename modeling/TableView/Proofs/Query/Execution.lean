import TableView.Proofs.Query.Writing

/-! What executing a query asks its backend, and what it makes of the answers. -/
namespace TableView
open Sql (Relation)

namespace RecordStore
variable (s : RecordStore) (r : Relation) (h : List Call)

/-- The calls that size a relation: where the store cannot tell its size, its rows are counted. -/
def sizing : List Call :=
  match s.size h r with
  | .ok .unknown => [.size r, .count r.count]
  | _ => [.size r]

/-- The size that comes of it: the number of rows or groups, or one where counting fails too. -/
def sized : Except Error Nat :=
  match s.size h r with
  | .ok (.exact n) => .ok n
  | .ok (.grouped members) => .ok members.length
  | .ok .unknown => .ok ((s.count (h ++ [.size r]) r.count).toOption.getD 1)
  | .error e => .error e

end RecordStore

namespace ExecutedQuery
variable {e : ExecutedQuery} {n : Nat}

theorem unfilteredTotal_of_some (he : e.unfiltered = some n) : e.unfilteredTotal = pure (n, e) := by
  unfold unfilteredTotal
  rw [he]

/-- Until it is known, each time that the total without any filter is asked for counts anew. -/
theorem unfilteredTotal_of_none (he : e.unfiltered = none) :
    e.unfilteredTotal = e.countAll >>= fun n => pure (n, { e with unfiltered := some n }) := by
  unfold unfilteredTotal
  rw [he]

theorem unfilteredTotal_asks (he : e.unfiltered = none) (h : List Call) :
    (e.unfilteredTotal h).2 = (e.countAll h).2 ∧
      (e.unfilteredTotal h).1.map (·.1) = (e.countAll h).1 := by
  rw [unfilteredTotal_of_none he, Session.bind_apply]
  rcases e.countAll h with ⟨_ | _, _⟩ <;> exact ⟨rfl, rfl⟩

end ExecutedQuery

namespace RelationalQuery

theorem total_apply (s : RecordStore) (r : Relation) (h : List Call) :
    total s r h = (s.sized r.unpaged h, h ++ s.sizing r.unpaged h) := by
  simp only [total, Session.bind_apply, Session.size, Session.ask, RecordStore.sized,
    RecordStore.sizing]
  rcases s.size h r.unpaged with e | n | members | _
  · rfl
  · rfl
  · rfl
  · simp only [Session.orElse, Session.count, Session.ask]
    cases s.count (h ++ [.size r.unpaged]) r.unpaged.count <;>
      simp only [List.append_assoc, List.singleton_append] <;> rfl

/-- One selection, and where it succeeds one sizing of the selection without its page. -/
theorem execute_apply (q : RelationalQuery) (h : List Call) :
    q.execute h =
      let asked := h ++ [.select q.relation.select]
      match q.store.select h q.relation.select with
      | .error e => (.error e, asked)
      | .ok rows => ((q.store.sized q.relation.unpaged asked).map fun n =>
          { rows, totalEntries := n, countAll := total q.store q.base },
        asked ++ q.store.sizing q.relation.unpaged asked) := by
  simp only [execute, Session.bind_apply, Session.select, Session.ask]
  cases q.store.select h q.relation.select with
  | error e => rfl
  | ok rows =>
    simp only [total_apply]
    cases q.store.sized q.relation.unpaged (h ++ [.select q.relation.select]) <;> rfl

theorem execute_iff {q : RelationalQuery} {e : ExecutedQuery} {h h' : List Call} :
    q.execute h = (.ok e, h') ↔ ∃ rows n,
      q.store.select h q.relation.select = .ok rows ∧
      q.store.sized q.relation.unpaged (h ++ [.select q.relation.select]) = .ok n ∧
      h' = h ++ [.select q.relation.select] ++
        q.store.sizing q.relation.unpaged (h ++ [.select q.relation.select]) ∧
      e = { rows, totalEntries := n, countAll := total q.store q.base } := by
  rw [execute_apply]
  constructor
  · intro he
    cases hselect : q.store.select h q.relation.select with
    | error err =>
      rw [hselect] at he
      cases he
    | ok rows =>
      rw [hselect] at he
      obtain ⟨hvalue, rfl⟩ := Prod.mk.inj he
      obtain ⟨n, hsized, rfl⟩ := ok_of_map hvalue
      exact ⟨rows, n, rfl, hsized, rfl, rfl⟩
  · rintro ⟨rows, n, hselect, hsized, rfl, rfl⟩
    simp only [hselect, hsized]
    rfl

/-- The total without any filter is not known yet, and will be sized of the base. -/
theorem execute_countAll {q : RelationalQuery} {e : ExecutedQuery} {h h' : List Call}
    (he : q.execute h = (.ok e, h')) : e.unfiltered = none ∧ e.countAll = fun g =>
      (q.store.sized q.base.unpaged g, g ++ q.store.sizing q.base.unpaged g) := by
  obtain ⟨rows, n, -, -, -, rfl⟩ := execute_iff.mp he
  exact ⟨rfl, funext fun g => total_apply q.store q.base g⟩

end RelationalQuery

namespace IndexQuery

/-- One search, whose answer has to tell the number of hits. -/
theorem execute_apply (q : IndexQuery) (h : List Call) :
    q.execute h = ((q.index.search h q.body.toJson).bind fun response =>
      (hitTotal response).map fun n => {
        rows := hitRows response
        totalEntries := n
        aggregations := response.getOrNull "aggregations"
        aggregates := q.aggregates
        countAll := countAll q.index }, h ++ [.search q.body.toJson]) := by
  simp only [execute, Session.bind_apply, Session.search, Session.ask]
  cases q.index.search h q.body.toJson with
  | error e => rfl
  | ok response =>
    simp only [Except.bind, Session.ofExcept_apply]
    cases hitTotal response <;> rfl

theorem execute_iff {q : IndexQuery} {e : ExecutedQuery} {h h' : List Call} :
    q.execute h = (.ok e, h') ↔ ∃ response n,
      q.index.search h q.body.toJson = .ok response ∧ hitTotal response = .ok n ∧
      h' = h ++ [.search q.body.toJson] ∧ e = {
        rows := hitRows response
        totalEntries := n
        aggregations := response.getOrNull "aggregations"
        aggregates := q.aggregates
        countAll := countAll q.index } := by
  rw [execute_apply]
  constructor
  · intro he
    obtain ⟨hvalue, rfl⟩ := Prod.mk.inj he
    obtain ⟨response, hresponse, hvalue⟩ := ok_of_bind hvalue
    obtain ⟨n, htotal, rfl⟩ := ok_of_map hvalue
    exact ⟨response, n, hresponse, htotal, rfl, rfl⟩
  · rintro ⟨response, n, hresponse, htotal, rfl, rfl⟩
    simp only [hresponse, Except.bind, htotal]
    rfl

theorem countAll_apply (index : SearchIndex) (h : List Call) :
    countAll index h =
      ((index.search h Index.Body.countAll).bind hitTotal, h ++ [.search Index.Body.countAll]) := by
  simp only [countAll, Session.bind_apply, Session.search, Session.ask]
  cases index.search h Index.Body.countAll <;> rfl

theorem execute_countAll {q : IndexQuery} {e : ExecutedQuery} {h h' : List Call}
    (he : q.execute h = (.ok e, h')) : e.unfiltered = none ∧ e.countAll = fun g =>
      ((q.index.search g Index.Body.countAll).bind hitTotal,
        g ++ [.search Index.Body.countAll]) := by
  obtain ⟨response, n, -, -, -, rfl⟩ := execute_iff.mp he
  exact ⟨rfl, funext fun g => countAll_apply q.index g⟩

end IndexQuery
end TableView
