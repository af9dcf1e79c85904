import TableView.Store.Basic

/-! Sizes of a selection from a table with one column of nullable numbers. -/
namespace TableView.Sqlite

/-- A selection of `g` from a table of that column, kept from a least value on. -/
structure Selection where
  values : List (Option Int)
  least : Option Int := none
  grouped : Bool := false
  projected : Bool := false

namespace Selection

/-- Null is never at least anything. -/
def kept (s : Selection) : List (Option Int) :=
  match s.least with
  | none => s.values
  | some low => s.values.filter fun v => v.any (low ≤ ·)

/-- Null goes before all numbers. -/
def before : Option Int → Option Int → Bool
  | none, _ => true
  | some _, none => false
  | some a, some b => a ≤ b

/-- The number of members of each group, in the order of the grouped value. -/
def groupSizes (s : Selection) : List Nat :=
  let sorted := s.kept.mergeSort before
  (sorted.eraseDups).map fun v => s.kept.count v

/-- A selection of something else than whole rows cannot be sized. -/
def size (s : Selection) : RelationSize :=
  if s.projected then .unknown
  else if s.grouped then .grouped s.groupSizes
  else .exact s.kept.length

/-- The number of rows, or of groups where rows are grouped. -/
def count (s : Selection) : Nat := if s.grouped then s.groupSizes.length else s.kept.length

/-- All numbers of the table, ascending. -/
def ids (s : Selection) : List Int := (s.values.filterMap id).mergeSort (· ≤ ·)

end Selection
end TableView.Sqlite
