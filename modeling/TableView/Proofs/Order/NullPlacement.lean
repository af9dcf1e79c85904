import Mathlib.Data.Int.Order.Basic
import Mathlib.Order.Lattice
import TableView.Proofs.Query.Writing

/-! Where rows without a value are sorted: a column puts two rows in the same order on every
database and in the index. -/
namespace TableView

variable {α : Type} [LinearOrder α] {c : ColumnData} {d : SortDirection}
  {r s : String → Option α}

def SortDirection.orient : SortDirection → Ordering → Ordering
  | asc, o => o
  | desc, o => o.swap

/-- Nulls are equal to each other and lie all on one side of the values. -/
def compareNullable (d : SortDirection) (nullsFirst : Bool) : Option α → Option α → Ordering
  | none, none => .eq
  | none, some _ => if nullsFirst then .lt else .gt
  | some _, none => if nullsFirst then .gt else .lt
  | some a, some b => d.orient (compare a b)

namespace Sql

inductive SortExpr
  | field (name : String)
  /-- A truth value, false before true. -/
  | isNull (name : String)

/-- An item of an `ORDER BY` list; when it does not place nulls, the database has a place for
them. -/
structure SortItem where
  expr : SortExpr
  direction : SortDirection
  nullsFirst : Option Bool := none

def SortExpr.text : SortExpr → String
  | field name => name
  | isNull name => "(" ++ name ++ " IS NULL)"

namespace SortItem

def text (i : SortItem) : String :=
  i.expr.text ++ " " ++ i.direction.sql ++
    match i.nullsFirst with
    | some true => " NULLS FIRST"
    | some false => " NULLS LAST"
    | none => ""

/-- How an item compares two rows, given where the database has nulls in either direction. -/
def compare (usual : SortDirection → Bool) (r s : String → Option α) (i : SortItem) : Ordering :=
  match i.expr with
  | .field name =>
    compareNullable i.direction (i.nullsFirst.getD (usual i.direction)) (r name) (s name)
  | .isNull name => i.direction.orient (Ord.compare (r name).isNone (s name).isNone)

end SortItem

namespace OrderTerm

end OrderTerm
end Sql

namespace Index

/-- Documents without the field come last unless the clause says otherwise. -/
def missingFirst (options : Fields Json) : Bool :=
  match options.get? "missing" with
  | some (.str place) => place = "_first"
  | _ => false

def direction (options : Fields Json) : SortDirection :=
  match options.get? "order" with
  | some (.str word) => if word = "desc" then .desc else .asc
  | _ => .asc

end Index

end TableView
