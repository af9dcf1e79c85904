import TableView.Query.Basic
import TableView.Query.Meaning
import TableView.Query.Stage
import TableView.Sql.Ordering

/-! Queries answered by a record store. -/
namespace TableView

structure RelationalQuery where
  store : RecordStore
  registry : Registry
  /-- The rows there are without any search. -/
  base : Sql.Relation
  /-- The selection written so far. -/
  relation : Sql.Relation
  stage : Stage := .idle

namespace RelationalQuery

def start (store : RecordStore) (registry : Registry) (base : Sql.Relation) : RelationalQuery :=
  { store, registry, base, relation := base }

/-- The statement written so far, in the store's dialect. -/
def statement (q : RelationalQuery) : Sql.Fragment :=
  q.relation.select.render q.store.capabilities.dialect

/-- Rows whose owner key is among the ids; none when there are no ids. -/
def ownedBy (table key : String) (ids : List Int) : Sql.Predicate :=
  if ids.isEmpty then .never else .isIn (table ++ "." ++ key) ids

def condition (table : String) (c : ColumnData) : TermMeaning → Sql.Predicate
  | .owners key ids => ownedBy table key ids
  | .value t => .ofTerm c t

def reader (q : RelationalQuery) : TermReader where
  associations := some (q.store.toAssociationSource, q.base.table)
  deobfuscate := q.store.deobfuscate

/-- The predicate of one term, unless the term drops out. -/
def predicate (q : RelationalQuery) (c : Column) (raw : String) :
    Session (Option Sql.Fragment) := do
  match c.searchStrategy with
  | some strategy =>
    match strategy c.toColumnData raw with
    | .sql f => return some f
    | .unfiltered => return none
    | other => Session.ofExcept (c.wrongStrategy "search" other.backend "predicate")
  | none =>
    let meaning ← q.reader.read c.toColumnData raw
    return meaning.map fun m =>
      (condition q.base.table c.toColumnData m).fragment q.store.capabilities

/-- Adds a predicate to the clause that its column targets. -/
def push (r : Sql.Relation) (added : Column × Sql.Fragment) : Sql.Relation :=
  match added.1.search.targetClause with
  | .filter => { r with filters := r.filters ++ [added.2] }
  | .having => { r with having := r.having ++ [added.2] }

/-- Each term that can be read adds one predicate, in order. -/
def search (q : RelationalQuery) (terms : List SearchTerm) : Session RelationalQuery := do
  let stage ← Session.ofExcept (q.stage.advance "search" .filtered)
  let added ← Session.gather q.predicate (q.registry.resolveTerms terms)
  return { q with stage, relation := added.foldl push q.relation }

/-- The order terms of a column. -/
def orderTerms (q : RelationalQuery) (c : Column) (d : SortDirection) :
    Except Error (List String) :=
  match c.orderStrategy with
  | some strategy =>
    match strategy c.toColumnData d with
    | .sql terms => .ok terms
    | other => c.wrongStrategy "order" other.backend "order"
  | none => .ok ((Sql.OrderTerm.ofColumn q.store.capabilities c.toColumnData d).map (·.sql))

/-- The base's own order breaks ties. -/
def order (q : RelationalQuery) (spec : Option OrderSpec) : Except Error RelationalQuery := do
  let stage ← q.stage.advance "order" .ordered
  match ← q.registry.resolveOrder spec with
  | none => return { q with stage }
  | some (c, d) =>
    let terms ← q.orderTerms c d
    return { q with stage, relation := { q.relation with orderBy := terms ++ q.relation.orderBy } }

def paginate (q : RelationalQuery) (w : PageWindow) : Except Error RelationalQuery := do
  let stage ← q.stage.advance "paginate" .paginated
  let relation := { q.relation with limit := some w.perPage.toNat, offset := some w.offset }
  return { q with stage, relation }

/-- The number of rows or groups of a relation without its page; one where it cannot be told. -/
def total (store : RecordStore) (r : Sql.Relation) : Session Nat := do
  let all := r.unpaged
  match ← Session.size store all with
  | .exact n => return n
  | .grouped members => return members.length
  | .unknown => (Session.count store all.count).orElse 1

/-- Selects the page, then sizes the whole selection. -/
def execute (q : RelationalQuery) : Session ExecutedQuery := do
  let rows ← Session.select q.store q.relation.select
  let totalEntries ← total q.store q.relation
  return { rows, totalEntries, countAll := total q.store q.base }

/-- One line about a query that has run. -/
def describe (e : ExecutedQuery) : String :=
  "ExecutedRelationalQuery \x7b rows: " ++ toString e.rows.length ++
    ", total_entries: " ++ toString e.totalEntries ++ ", .. \x7d"

instance : TableQuery RelationalQuery where
  search := search
  order q spec := Session.ofExcept (q.order spec)
  paginate q w := Session.ofExcept (q.paginate w)
  execute := execute

end RelationalQuery
end TableView
