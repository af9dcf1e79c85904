import TableView.Error
import TableView.Json.Basic
import TableView.Sql.Relation

/-! Work that asks backends and keeps a record of what was asked. -/
namespace TableView

/-- A question to a record store or, the last one, to a search index. -/
inductive Call
  | columns (table : String)
  | pluckIds (f : Sql.Fragment)
  | select (f : Sql.Fragment)
  | size (r : Sql.Relation)
  | count (f : Sql.Fragment)
  | search (body : Json)

/-- The calls made so far, the first one first; they stay on record when the work fails. -/
abbrev Session (α : Type) := ExceptT Error (StateM (List Call)) α

namespace Session
variable {α : Type}

/-- Records a call, then answers it by the calls made before. -/
def ask (c : Call) (answer : List Call → Except Error α) : Session α := fun history =>
  (answer history, history ++ [c])

def ofExcept (e : Except Error α) : Session α := fun history => (e, history)

/-- Takes another value in place of an error. -/
def orElse (s : Session α) (fallback : α) : Session α := fun history =>
  match s history with
  | (.ok a, calls) => (.ok a, calls)
  | (.error _, calls) => (.ok fallback, calls)

end Session
end TableView
