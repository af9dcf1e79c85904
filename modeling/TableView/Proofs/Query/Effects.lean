import TableView.Proofs.Association.Resolution
import TableView.Proofs.Query.Writing

/-! A call on a query checks its turn, then changes what is written so far by something that does
not depend on it. Of the backend it asks for columns and for ids only. -/
namespace TableView

namespace WriteCall

/-- The stage that a call leads to. -/
def stage : WriteCall → Stage
  | search _ => .filtered
  | order _ => .ordered
  | paginate _ => .paginated

def operation : WriteCall → String
  | search _ => "search"
  | order _ => "order"
  | paginate _ => "paginate"

end WriteCall

@[simp] theorem Stage.advance_idle (operation : String) (next : Stage) :
    idle.advance operation next = .ok next := rfl

theorem Stage.advance_eq_ok {s t next : Stage} {operation : String} :
    s.advance operation next = .ok t ↔ s.rank ≤ next.rank ∧ t = next := by
  unfold advance
  split
  · simpa using fun h => absurd h (by omega)
  · simp [eq_comm, Nat.le_of_not_lt, *]

theorem Stage.advance_eq_error {s next : Stage} {operation : String} {e : Error} :
    s.advance operation next = .error e ↔
      next.rank < s.rank ∧ e = .contract operation ("called after " ++ s.word ++ " stage") := by
  unfold advance
  split <;> simp [eq_comm, *]

namespace RelationalQuery
open Sql (Relation)
variable {q q' : RelationalQuery} {call : WriteCall} {h h' : List Call} {stage : Stage}
  {e : Error}

/-- What an order puts ahead of the keys there are: nothing when it names no column. -/
def orderKeys (q : RelationalQuery) (spec : Option OrderSpec) : Except Error (List String) := do
  match ← q.registry.resolveOrder spec with
  | none => return []
  | some (c, d) => q.orderTerms c d

/-- What a call does to the relation. -/
def effect (q : RelationalQuery) : WriteCall → Session (Relation → Relation)
  | .search terms =>
    Session.gather q.predicate (q.registry.resolveTerms terms) >>= fun added =>
      pure fun r => added.foldl push r
  | .order spec => Session.ofExcept ((q.orderKeys spec).map fun keys r =>
      { r with orderBy := keys ++ r.orderBy })
  | .paginate w => pure fun r => { r with limit := some w.perPage.toNat, offset := some w.offset }

/-- Queries over the same store, columns and base, whatever was written so far. -/
structure SameScope (q q' : RelationalQuery) : Prop where
  store : q.store = q'.store
  registry : q.registry = q'.registry
  base : q.base = q'.base

theorem effect_congr (hq : q.SameScope q') : q.effect = q'.effect := by
  cases q
  cases q'
  obtain ⟨rfl, rfl, rfl⟩ := hq
  rfl

theorem order_eq (q : RelationalQuery) (spec : Option OrderSpec) :
    q.order spec = q.stage.advance "order" .ordered >>= fun stage =>
      (q.orderKeys spec).map fun keys =>
        { q with
          stage
          relation := { q.relation with orderBy := keys ++ q.relation.orderBy } } := by
  unfold order orderKeys
  cases q.stage.advance "order" .ordered with
  | error e => rfl
  | ok stage =>
    rcases q.registry.resolveOrder spec with e | _ | ⟨c, d⟩
    · rfl
    · rfl
    · show (q.orderTerms c d >>= _) = (q.orderTerms c d).map _
      cases q.orderTerms c d <;> rfl

theorem write_eq (q : RelationalQuery) (call : WriteCall) :
    TableQuery.write q call =
      Session.ofExcept (q.stage.advance call.operation call.stage) >>= fun stage =>
        q.effect call >>= fun change => pure { q with stage, relation := change q.relation } := by
  cases call with
  | search terms => simp only [effect, bind_assoc, pure_bind]; rfl
  | order spec =>
    show Session.ofExcept (q.order spec) = _
    rw [order_eq, Session.ofExcept_bind]
    congr 1
    funext stage
    rw [effect]
    cases q.orderKeys spec <;> rfl
  | paginate w =>
    funext h
    show (q.paginate w, h) = _
    simp only [paginate, WriteCall.operation, WriteCall.stage]
    cases q.stage.advance "paginate" .paginated <;> rfl

theorem write_eq_ok : TableQuery.write q call h = (.ok q', h') ↔
    ∃ stage change, q.stage.advance call.operation call.stage = .ok stage ∧
      q.effect call h = (.ok change, h') ∧
      q' = { q with stage, relation := change q.relation } := by
  rw [write_eq]
  exact Session.checked_eq_ok

theorem write_of_late (hlate : q.stage.advance call.operation call.stage = .error e) :
    TableQuery.write q call h = (.error e, h) := by
  rw [write_eq, hlate]
  rfl

theorem write_eq_error (hturn : q.stage.advance call.operation call.stage = .ok stage) :
    TableQuery.write q call h = (.error e, h') ↔ q.effect call h = (.error e, h') := by
  rw [write_eq, hturn]
  exact Session.map_eq_error

theorem predicate_lookups (q : RelationalQuery) (c : Column) (raw : String) :
    Session.Keeps Call.IsLookup (fun _ => True) (q.predicate c raw) := by
  unfold predicate
  split
  · split
    · exact .pure trivial
    · exact .pure trivial
    · exact .ofExcept fun _ _ => trivial
  · exact .bind TermReader.read_lookups fun _ _ => .pure trivial

/-- A call makes no more than lookups, and of the same store as before. -/
theorem write_lookups (q : RelationalQuery) (call : WriteCall) :
    Session.Keeps Call.IsLookup (fun q' => q'.store = q.store) (TableQuery.write q call) := by
  have heffect : Session.Keeps Call.IsLookup (fun _ => True) (q.effect call) := by
    cases call with
    | search terms =>
      exact .bind (.gather_calls q.predicate_lookups _) fun _ _ => .pure trivial
    | order spec => exact .ofExcept fun _ _ => trivial
    | paginate w => exact .pure trivial
  rw [write_eq]
  refine .bind (.ofExcept fun _ _ => trivial) fun stage (_ : True) => ?_
  exact .bind heffect fun change _ => .pure rfl

end RelationalQuery

namespace IndexQuery
open Index (Body)
variable {q q' : IndexQuery} {call : WriteCall} {h h' : List Call} {stage : Stage}
  {e : Error}

/-- What an order sorts by in place of what came before: nothing new when it names no column. -/
def orderKeys (q : IndexQuery) (spec : Option OrderSpec) : Except Error (Option (List Json)) := do
  match ← q.registry.resolveOrder spec with
  | none => return none
  | some (c, d) => (sortClauses c d).map some

/-- What a call does to the body. -/
def effect (q : IndexQuery) : WriteCall → Session (Body → Body)
  | .search terms =>
    Session.gather q.clause (q.registry.resolveTerms terms) >>= fun added =>
      pure fun b => added.foldl push b
  | .order spec => Session.ofExcept ((q.orderKeys spec).map fun keys b =>
      { b with sort := keys.getD b.sort })
  | .paginate w => pure fun b => { b with skip := some w.offset, size := some w.perPage.toNat }

/-- Queries over the same index and columns, read and set up in the same way, whatever was written
so far. -/
structure SameScope (q q' : IndexQuery) : Prop where
  index : q.index = q'.index
  registry : q.registry = q'.registry
  settings : q.settings = q'.settings
  reader : q.reader = q'.reader

theorem effect_congr (hq : q.SameScope q') : q.effect = q'.effect := by
  cases q
  cases q'
  obtain ⟨rfl, rfl, rfl, rfl⟩ := hq
  rfl

theorem order_eq (q : IndexQuery) (spec : Option OrderSpec) :
    q.order spec = q.stage.advance "order" .ordered >>= fun stage =>
      (q.orderKeys spec).map fun keys =>
        { q with stage, body := { q.body with sort := keys.getD q.body.sort } } := by
  unfold order orderKeys
  cases q.stage.advance "order" .ordered with
  | error e => rfl
  | ok stage =>
    rcases q.registry.resolveOrder spec with e | _ | ⟨c, d⟩
    · rfl
    · rfl
    · show (sortClauses c d >>= _) = ((sortClauses c d).map some).map _
      cases sortClauses c d <;> rfl

theorem write_eq (q : IndexQuery) (call : WriteCall) :
    TableQuery.write q call =
      Session.ofExcept (q.stage.advance call.operation call.stage) >>= fun stage =>
        q.effect call >>= fun change => pure { q with stage, body := change q.body } := by
  cases call with
  | search terms => simp only [effect, bind_assoc, pure_bind]; rfl
  | order spec =>
    show Session.ofExcept (q.order spec) = _
    rw [order_eq, Session.ofExcept_bind]
    congr 1
    funext stage
    rw [effect]
    cases q.orderKeys spec <;> rfl
  | paginate w =>
    funext h
    show (q.paginate w, h) = _
    simp only [paginate, WriteCall.operation, WriteCall.stage]
    cases q.stage.advance "paginate" .paginated <;> rfl

theorem write_eq_ok : TableQuery.write q call h = (.ok q', h') ↔
    ∃ stage change, q.stage.advance call.operation call.stage = .ok stage ∧
      q.effect call h = (.ok change, h') ∧ q' = { q with stage, body := change q.body } := by
  rw [write_eq]
  exact Session.checked_eq_ok

theorem write_of_late (hlate : q.stage.advance call.operation call.stage = .error e) :
    TableQuery.write q call h = (.error e, h) := by
  rw [write_eq, hlate]
  rfl

theorem write_eq_error (hturn : q.stage.advance call.operation call.stage = .ok stage) :
    TableQuery.write q call h = (.error e, h') ↔ q.effect call h = (.error e, h') := by
  rw [write_eq, hturn]
  exact Session.map_eq_error

theorem clause_lookups (q : IndexQuery) (c : Column) (raw : String) :
    Session.Keeps Call.IsLookup (fun _ => True) (q.clause c raw) := by
  unfold clause
  split
  · split
    · exact .pure trivial
    · exact .pure trivial
    · exact .ofExcept fun _ _ => trivial
  · exact .bind TermReader.read_lookups fun _ _ => .pure trivial

/-- A call makes no more than lookups, and of the same index as before. -/
theorem write_lookups (q : IndexQuery) (call : WriteCall) :
    Session.Keeps Call.IsLookup (fun q' => q'.index = q.index) (TableQuery.write q call) := by
  have heffect : Session.Keeps Call.IsLookup (fun _ => True) (q.effect call) := by
    cases call with
    | search terms =>
      exact .bind (.gather_calls q.clause_lookups _) fun _ _ => .pure trivial
    | order spec => exact .ofExcept fun _ _ => trivial
    | paginate w => exact .pure trivial
  rw [write_eq]
  refine .bind (.ofExcept fun _ _ => trivial) fun stage (_ : True) => ?_
  exact .bind heffect fun change _ => .pure rfl

end IndexQuery
end TableView
