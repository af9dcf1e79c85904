import TableView.Proofs.Registry.Places
import TableView.Proofs.Store.Session
import TableView.IndexQuery
import TableView.RelationalQuery

/-! Queries written by any calls in any order, and a blog to write some about. -/
namespace TableView

/-- One call while a query is written. -/
inductive WriteCall
  | search (terms : List SearchTerm)
  | order (spec : Option OrderSpec)
  | paginate (w : PageWindow)

namespace TableQuery
variable {Q : Type} [TableQuery Q] {P : Call → Prop} {I : Q → Prop} {q : Q}

def write (q : Q) : WriteCall → Session Q
  | .search terms => search q terms
  | .order spec => order q spec
  | .paginate w => paginate q w

/-- All calls one after the other, up to the first that fails. -/
def writeAll (q : Q) (calls : List WriteCall) : Session Q := calls.foldlM write q

theorem writeAll_keeps (hstep : ∀ q call, I q → Session.Keeps P I (write q call)) (hq : I q)
    (calls : List WriteCall) : Session.Keeps P I (writeAll q calls) :=
  Session.Keeps.foldlM hstep calls hq

end TableQuery

theorem Registry.mem_of_resolveOrder {r : Registry} {spec : Option OrderSpec} {c : Column}
    {d : SortDirection} (h : r.resolveOrder spec = .ok (some (c, d))) : c ∈ r.columns := by
  unfold resolveOrder at h
  split at h
  · cases h
  · split at h
    · cases h
    · rename_i hc
      split at h
      · cases h
        exact mem_of_lookup? hc
      · cases h

/-- Without a strategy a term puts the condition that it is read as. -/
theorem RelationalQuery.predicate_eq {q : RelationalQuery} {c : Column} {raw : String}
    (hplain : c.searchStrategy = none) :
    q.predicate c raw = q.reader.read c.toColumnData raw >>= fun m => pure (m.map fun m =>
      (condition q.base.table c.toColumnData m).fragment q.store.capabilities) := by
  simp only [predicate, hplain]

theorem IndexQuery.clause_eq {q : IndexQuery} {c : Column} {raw : String}
    (hplain : c.searchStrategy = none) :
    q.clause c raw = q.reader.read c.toColumnData raw >>= fun m =>
      pure (m.map (q.condition c.toColumnData raw)) := by
  simp only [clause, hplain]

/-- A search that comes to its end adds what its terms are read as. -/
theorem RelationalQuery.search_eq_ok {q q' : RelationalQuery} {terms : List SearchTerm}
    {h h' : List Call} : q.search terms h = (.ok q', h') ↔ ∃ stage added,
    q.stage.advance "search" .filtered = .ok stage ∧
      Session.gather q.predicate (q.registry.resolveTerms terms) h = (.ok added, h') ∧
      q' = { q with stage, relation := added.foldl push q.relation } :=
  Session.checked_eq_ok

theorem IndexQuery.search_eq_ok {q q' : IndexQuery} {terms : List SearchTerm}
    {h h' : List Call} : q.search terms h = (.ok q', h') ↔ ∃ stage added,
    q.stage.advance "search" .filtered = .ok stage ∧
      Session.gather q.clause (q.registry.resolveTerms terms) h = (.ok added, h') ∧
      q' = { q with stage, body := added.foldl push q.body } :=
  Session.checked_eq_ok

namespace Blog

def comments : Association where
  name := "comments"
  kind := .hasMany
  relatedTable := "comments"
  foreignKey := "post_id"

/-- Every lookup finds the same two posts. -/
def store : RecordStore where
  association table name := if table = "posts" ∧ name = "comments" then some comments else none
  columns _ _ := .ok [("body", .text), ("score", .integer)]
  pluckIds _ _ := .ok [3, 1]
  capabilities := .preset .postgres
  deobfuscate := id
  select _ _ := .ok []
  size _ _ := .ok .unknown
  count _ _ := .ok 0

/-- It answers null, whatever it is asked. -/
def index : SearchIndex where
  search _ _ := .ok .null
  searchField _ := none

def title : Column where
  name := "title"
  backendField := "posts.title"
  kind := .string

/-- What it costs to read a post. -/
def fee : Column where
  name := "fee"
  backendField := "posts.fee"
  kind := .price

/-- Posts by the text of their comments. -/
def discussion : Column where
  name := "comments"
  backendField := "comments"
  kind := .oneToMany
  association := some { mode := .textSearch none }

def registry : Registry where
  columns := [title, fee, discussion]
  distinct := by decide

theorem registry_plain : ∀ c ∈ registry.columns, c.searchStrategy = none := by
  decide

/-- The posts of one site. -/
def posts : Sql.Relation where
  table := "posts"
  filters := [⟨"posts.site_id = ?", [.integer 7]⟩]

end Blog
end TableView
