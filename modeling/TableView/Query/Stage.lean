import TableView.Error

/-! The order of calls while a query is written: search, order, paginate. -/
namespace TableView

inductive Stage | idle | filtered | ordered | paginated
deriving DecidableEq, Repr

namespace Stage

def rank : Stage → Nat
  | idle => 0
  | filtered => 1
  | ordered => 2
  | paginated => 3

def word : Stage → String
  | idle => "Idle"
  | filtered => "Filtered"
  | ordered => "Ordered"
  | paginated => "Paginated"

/-- Goes on to a stage that is not behind the present one. -/
def advance (s : Stage) (operation : String) (next : Stage) : Except Error Stage :=
  if next.rank < s.rank then
    .error (.contract operation ("called after " ++ s.word ++ " stage"))
  else .ok next

/-- Raw clauses come before all else. -/
def scope (s : Stage) (operation : String) : Except Error Unit :=
  if s = idle then .ok ()
  else .error (.contract operation ("scope changed after " ++ s.word ++ " stage"))

end Stage
end TableView
