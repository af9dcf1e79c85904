import TableView.Column.Basic
import TableView.Sql.Dialect

/-! Order terms with nulls in a fixed place, natively or by an extra key. -/
namespace TableView.Sql

inductive OrderTerm
  /-- A key whose nulls are placed by the database. -/
  | placed (field : String) (direction : SortDirection) (nullsFirst : Bool)
  /-- Whether the field is null, false before true when ascending. -/
  | isNull (field : String) (direction : SortDirection)
  | plain (field : String) (direction : SortDirection)
deriving DecidableEq, Repr

namespace OrderTerm

def sql : OrderTerm → String
  | placed field d nullsFirst =>
    field ++ " " ++ d.sql ++ (if nullsFirst then " NULLS FIRST" else " NULLS LAST")
  | isNull field d => "(" ++ field ++ " IS NULL) " ++ d.sql
  | plain field d => field ++ " " ++ d.sql

/-- The terms of one field: without native placing, a null key goes ahead of it. -/
def ofField (native nullsFirst : Bool) (d : SortDirection) (field : String) : List OrderTerm :=
  if native then [placed field d nullsFirst]
  else [isNull field (if nullsFirst then .desc else .asc), plain field d]

/-- The terms that sort by a column. -/
def ofColumn (caps : Capabilities) (c : ColumnData) (d : SortDirection) : List OrderTerm :=
  c.sortKeys.flatMap (ofField caps.nullOrdering (c.nullOrdering.nullsFirst d) d)

end OrderTerm
end TableView.Sql
