import TableView.Fields
import TableView.Text.Blank
import TableView.Text.Lower

/-! Ascending and descending order. -/
namespace TableView

inductive SortDirection | asc | desc
deriving DecidableEq, Repr

namespace SortDirection

def word : SortDirection → String
  | asc => "asc"
  | desc => "desc"

def sql : SortDirection → String
  | asc => "ASC"
  | desc => "DESC"

def words : List (String × SortDirection) := [("asc", asc), ("desc", desc)]

/-- Reads a direction in any case, with blanks around it; a wrong word is given back. -/
def parse (s : String) : Except String SortDirection :=
  let word := Text.lower (Text.trim s)
  match Fields.get? words word with
  | some d => .ok d
  | none => .error ("unknown sort direction: " ++ word)

end SortDirection
end TableView
