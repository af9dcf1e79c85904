import TableView.Index.Body
import TableView.Query.Basic
import TableView.Query.Meaning
import TableView.Query.Stage
import TableView.Text.Quoted

/-! Queries answered by a search index. -/
namespace TableView

structure IndexQuery where
  index : SearchIndex
  registry : Registry
  settings : Settings
  /-- By default relationships are not looked up and no identifier can be unscrambled. -/
  reader : TermReader := { associations := none, deobfuscate := id }
  body : Index.Body
  aggregates : Fields AggregateSpec := []
  stage : Stage := .idle

namespace IndexQuery
open Index (Clause Placed)

def start (index : SearchIndex) (registry : Registry) (settings : Settings) : IndexQuery :=
  { index, registry, settings, body := { trackTotalHits := settings.trackTotalHits } }

/-- Adds an unscored clause, before all else. -/
def filter (q : IndexQuery) (c : Clause) : Except Error IndexQuery := do
  q.stage.scope "filter"
  return { q with body := q.body.pushFilter c }

/-- Adds a scored clause, before all else. -/
def query (q : IndexQuery) (c : Clause) : Except Error IndexQuery := do
  q.stage.scope "query"
  return { q with body := q.body.pushQuery c }

/-- Takes the aggregation of a replaced request out, unless some name still needs it. -/
def release (aggregates : Fields AggregateSpec) (replaced : Option AggregateSpec)
    (b : Index.Body) : Index.Body :=
  match replaced with
  | none => b
  | some old =>
    if aggregates.any fun e => e.2.key = old.key then b else b.removeAggregation old.key

/-- Asks for an aggregate under a name; equal requests share one aggregation. -/
def aggregate (q : IndexQuery) (name : String) (spec : AggregateSpec) :
    Except Error IndexQuery := do
  let body ←
    if q.body.hasAggregation spec.key then pure q.body
    else (spec.compile q.settings).map (q.body.addAggregation spec.key)
  let aggregates := q.aggregates.insert name spec
  return { q with aggregates, body := release aggregates (q.aggregates.get? name) body }

def searchField (q : IndexQuery) (field : String) : String :=
  (q.index.searchField field).getD (q.settings.searchField field)

/-- Documents whose owner key is among the ids; none when there are no ids. -/
def ownedBy (key : String) (ids : List Int) : Clause :=
  if ids.isEmpty then .none else .terms key ids

def condition (q : IndexQuery) (c : ColumnData) (raw : String) : TermMeaning → Placed
  | .owners key ids => .filter (ownedBy key ids)
  | .value t => Clause.ofTerm c raw (q.searchField c.backendField) t

/-- The clause of one term, unless the term drops out. -/
def clause (q : IndexQuery) (c : Column) (raw : String) : Session (Option Placed) := do
  match c.searchStrategy with
  | some strategy =>
    match strategy c.toColumnData raw with
    | .index body => return some (.filter (.raw body))
    | .unfiltered => return none
    | other => Session.ofExcept (c.wrongStrategy "search" other.backend "predicate")
  | none =>
    let meaning ← q.reader.read c.toColumnData raw
    return meaning.map (q.condition c.toColumnData raw)

/-- Adds a clause to its group; clauses on nested columns go by their path. -/
def push (b : Index.Body) (added : Column × Placed) : Index.Body :=
  match added.1.kind, added.2 with
  | .nested path, p => b.pushNested path p.clause
  | _, .query c => b.pushQuery c
  | _, .filter c => b.pushFilter c

/-- Each term that can be read adds one clause, in order. -/
def search (q : IndexQuery) (terms : List SearchTerm) : Session IndexQuery := do
  let stage ← Session.ofExcept (q.stage.advance "search" .filtered)
  let added ← Session.gather q.clause (q.registry.resolveTerms terms)
  return { q with stage, body := added.foldl push q.body }

/-- The sort clauses of a column. -/
def sortClauses (c : Column) (d : SortDirection) : Except Error (List Json) :=
  match c.orderStrategy with
  | some strategy =>
    match strategy c.toColumnData d with
    | .index clauses => .ok clauses
    | other => c.wrongStrategy "order" other.backend "order"
  | none => .ok ((Index.SortKey.ofColumn c.toColumnData d).map (·.toJson))

/-- A later order takes the place of an earlier one. -/
def order (q : IndexQuery) (spec : Option OrderSpec) : Except Error IndexQuery := do
  let stage ← q.stage.advance "order" .ordered
  match ← q.registry.resolveOrder spec with
  | none => return { q with stage }
  | some (c, d) =>
    let sort ← sortClauses c d
    return { q with stage, body := { q.body with sort } }

def paginate (q : IndexQuery) (w : PageWindow) : Except Error IndexQuery := do
  let stage ← q.stage.advance "paginate" .paginated
  let body := { q.body with skip := some w.offset, size := some w.perPage.toNat }
  return { q with stage, body }

/-- The number of hits, bare or as an object with a `value`. -/
def hitTotal (response : Json) : Except Error Nat :=
  let total := (response.get? "hits").bind (·.get? "total")
  match total.bind fun t => ((t.get? "value").bind Json.nat?).orElse fun _ => t.nat? with
  | some n => .ok n
  | none => .error (.malformed "search index" "response has no hits.total")

/-- The documents of all hits that have one. -/
def hitRows (response : Json) : List Record :=
  let hits := (((response.get? "hits").bind (·.get? "hits")).bind Json.items?).getD []
  hits.filterMap fun hit =>
    match hit.get? "_source" with
    | some (.obj fields) => some fields
    | _ => none

def countAll (index : SearchIndex) : Session Nat := do
  Session.ofExcept (hitTotal (← Session.search index Index.Body.countAll))

/-- One search settles the page and all aggregates. -/
def execute (q : IndexQuery) : Session ExecutedQuery := do
  let response ← Session.search q.index q.body.toJson
  let totalEntries ← Session.ofExcept (hitTotal response)
  return {
    rows := hitRows response
    totalEntries
    aggregations := response.getOrNull "aggregations"
    aggregates := q.aggregates
    countAll := countAll q.index }

/-- One line about a query that has run. -/
def describe (e : ExecutedQuery) : String :=
  "ExecutedIndexQuery \x7b rows: " ++ toString e.rows.length ++
    ", total_entries: " ++ toString e.totalEntries ++
    ", aggregates: [" ++ ", ".intercalate (e.aggregates.keys.map Text.quoted) ++ "], .. \x7d"

instance : TableQuery IndexQuery where
  search := search
  order q spec := Session.ofExcept (q.order spec)
  paginate q w := Session.ofExcept (q.paginate w)
  execute := execute

end IndexQuery
end TableView
