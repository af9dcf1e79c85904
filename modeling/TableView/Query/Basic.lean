import TableView.Aggregate.Buckets
import TableView.Request
import TableView.Store.Basic

/-! What a query yields once it has run, and running a whole request. -/
namespace TableView

structure ResultPage where
  rows : List Record
  totalEntries : Nat
  unfilteredTotalEntries : Nat
  aggregates : Fields Buckets

/-- The number of pages that hold all entries; a page has at least one row. -/
def ResultPage.totalPages (p : ResultPage) (perPage : UInt32) : Nat :=
  let length := max perPage.toNat 1
  (p.totalEntries + length - 1) / length

/-- A query that has run: all but the unfiltered total is settled. -/
structure ExecutedQuery where
  rows : List Record
  totalEntries : Nat
  /-- The aggregates as the backend answered them. -/
  aggregations : Json := .null
  /-- The aggregates asked for, by the caller's names. -/
  aggregates : Fields AggregateSpec := []
  /-- Asks the backend for the number of entries without any filter. -/
  countAll : Session Nat
  /-- The number of entries without any filter, once it is known. -/
  unfiltered : Option Nat := none

namespace ExecutedQuery

/-- Asks until a first answer, which is kept; an error is not. -/
def unfilteredTotal (q : ExecutedQuery) : Session (Nat × ExecutedQuery) := do
  match q.unfiltered with
  | some n => return (n, q)
  | none =>
    let n ← q.countAll
    return (n, { q with unfiltered := some n })

def aggregateFor (q : ExecutedQuery) (name : String) : Except Error (Option Buckets) :=
  match q.aggregates.get? name with
  | none => .ok none
  | some spec =>
    match q.aggregations.get? spec.key with
    | none =>
      .error (.malformed "search index" ("aggregate " ++ name ++ " missing from response"))
    | some result => (spec.decode result).map some

/-- The aggregates of all names. -/
def allAggregates (q : ExecutedQuery) : Except Error (Fields Buckets) := do
  let decoded ← q.aggregates.keys.mapM fun name => do
    return (← q.aggregateFor name).map fun b => (name, b)
  return decoded.filterMap id

/-- Everything there is to show; the unfiltered total is asked for first. -/
def page (q : ExecutedQuery) : Session ResultPage := do
  let (unfiltered, _) ← q.unfilteredTotal
  let aggregates ← Session.ofExcept q.allAggregates
  return {
    rows := q.rows
    totalEntries := q.totalEntries
    unfilteredTotalEntries := unfiltered
    aggregates }

end ExecutedQuery

/-- A query while it is written. -/
class TableQuery (Q : Type) where
  search : Q → List SearchTerm → Session Q
  order : Q → Option OrderSpec → Session Q
  paginate : Q → PageWindow → Session Q
  execute : Q → Session ExecutedQuery

/-- Answers a whole request by a fresh query. -/
def TableQuery.run {Q : Type} [TableQuery Q] (q : Q) (r : Request) (s : Settings) :
    Session ResultPage := do
  let q ← search q r.searchTerms
  let q ← order q r.order
  let q ← paginate q (r.window s)
  (← execute q).page

end TableView
