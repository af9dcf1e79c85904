import TableView.Sql.Fragment

/-! A selection from one table, clause by clause, and the statements over it. -/
namespace TableView.Sql

/-- Filters and having-predicates are conjoined in the order held. -/
structure Relation where
  table : String
  /-- The select list, all of the table when there is none. -/
  projection : Option String := none
  joins : List String := []
  filters : List Fragment := []
  groupBy : List String := []
  having : List Fragment := []
  orderBy : List String := []
  limit : Option Nat := none
  offset : Option Nat := none
deriving DecidableEq

namespace Relation

def isGrouped (r : Relation) : Bool := !r.groupBy.isEmpty

/-- The same rows in no order, all of them. -/
def unpaged (r : Relation) : Relation := { r with orderBy := [], limit := none, offset := none }

/-- A keyword and the conjunction of the predicates, when there are any. -/
def pushWhere (f : Fragment) (keyword : String) (predicates : List Fragment) : Fragment :=
  match Fragment.andAll? predicates with
  | some p => (f.pushText keyword).push p
  | none => f

def pushList (f : Fragment) (keyword : String) (texts : List String) : Fragment :=
  if texts.isEmpty then f else f.pushText (keyword ++ ", ".intercalate texts)

def pushNumber (f : Fragment) (keyword : String) (n : Option Nat) : Fragment :=
  match n with
  | some n => f.pushText (keyword ++ toString n)
  | none => f

/-- Everything from FROM to HAVING, which selecting and counting share. -/
def body (r : Relation) : Fragment :=
  let f : Fragment := { sql := "FROM " ++ r.table ++ String.join (r.joins.map (" " ++ ·)) }
  let f := pushWhere f " WHERE" r.filters
  let f := pushList f " GROUP BY " r.groupBy
  pushWhere f " HAVING" r.having

def selectList (r : Relation) : String := r.projection.getD (r.table ++ ".*")

def select (r : Relation) : Fragment :=
  let f := Fragment.push { sql := "SELECT " ++ r.selectList } r.body
  let f := pushList f " ORDER BY " r.orderBy
  pushNumber (pushNumber f " LIMIT " r.limit) " OFFSET " r.offset

/-- One member count for each group. -/
def groupSizes (r : Relation) : Fragment := Fragment.push { sql := "SELECT COUNT(*)" } r.body

/-- The number of selected rows: a grouped or projected relation is counted as a derived table. -/
def count (r : Relation) : Fragment :=
  if r.isGrouped || r.projection.isSome then
    let inner := r.unpaged.select
    { inner with sql := "SELECT COUNT(*) FROM (" ++ inner.sql ++ ") AS datatable_count" }
  else r.groupSizes

end Relation
end TableView.Sql
