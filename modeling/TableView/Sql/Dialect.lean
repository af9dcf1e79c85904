/-! Database dialects and what each supports. -/
namespace TableView.Sql

inductive Dialect | postgres | mysql | sqlite
deriving DecidableEq, Repr

namespace Dialect

/-- The marker of the `n`-th bound value, counted from one. -/
def placeholder : Dialect → Nat → String
  | postgres, n => "$" ++ toString n
  | mysql, _ => "?"
  | sqlite, n => "?" ++ toString n

/-- The calendar year of a field. -/
def yearOf : Dialect → String → String
  | sqlite, field => "CAST(strftime('%Y', " ++ field ++ ") AS INTEGER)"
  | _, field => "EXTRACT(YEAR FROM " ++ field ++ ")"

end Dialect

structure Capabilities where
  dialect : Dialect := .postgres
  /-- Order terms may say where nulls go. -/
  nullOrdering : Bool := false
  /-- Patterns can be compared without regard to case. -/
  ilike : Bool := false
deriving DecidableEq, Repr

def Capabilities.preset : Dialect → Capabilities
  | .postgres => { dialect := .postgres, nullOrdering := true, ilike := true }
  | .mysql => { dialect := .mysql }
  | .sqlite => { dialect := .sqlite, nullOrdering := true }

end TableView.Sql
