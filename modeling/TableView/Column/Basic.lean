import TableView.Column.Kind
import TableView.Json.Basic
import TableView.SortDirection
import TableView.Sql.Fragment

/-! Column definitions: the field behind a column and how it is searched and sorted. -/
namespace TableView

inductive MatchMode | exact | contains
deriving DecidableEq, Repr

/-- Whether a column's predicate restricts rows or groups. -/
inductive TargetClause | filter | having
deriving DecidableEq, Repr

structure SearchOptions where
  /-- Match each word of a term by itself. -/
  fuzzy : Bool := true
  matchMode : MatchMode := .contains
  targetClause : TargetClause := .filter
deriving DecidableEq, Repr

namespace SearchOptions

def exact : SearchOptions := { fuzzy := false, matchMode := .exact }

def onGroups (o : SearchOptions) : SearchOptions := { o with targetClause := .having }

end SearchOptions

inductive NullOrdering | first | last | backendDefault
deriving DecidableEq, Repr

/-- By default null counts as the largest value. -/
def NullOrdering.nullsFirst : NullOrdering → SortDirection → Bool
  | first, _ => true
  | last, _ => false
  | backendDefault, d => d = .desc

inductive AssociationMode
  | idList
  /-- Search the related table's text, in one field or in all textual columns. -/
  | textSearch (field : Option String)
deriving DecidableEq, Repr

structure AssociationOptions where
  name : Option String := none
  mode : AssociationMode := .idList
deriving DecidableEq, Repr

/-- All of a column's definition that can be written down. -/
structure ColumnData where
  name : String
  backendField : String
  kind : ColumnKind
  search : SearchOptions := {}
  nullOrdering : NullOrdering := .backendDefault
  sortable : Bool := true
  sortOverride : Option String := none
  typeOverride : Option String := none
  association : Option AssociationOptions := none
deriving DecidableEq, Repr

namespace ColumnData
variable (c : ColumnData)

def sortField : String := c.sortOverride.getD c.backendField

/-- The field without an `_id` at its end, if it has one. -/
def stem? : Option String :=
  let cs := c.backendField.toList.reverse
  if cs.take 3 = ['d', 'i', '_'] then some (String.ofList (cs.drop 3).reverse) else none

def idField : String := if c.stem?.isSome then c.backendField else c.backendField ++ "_id"

def typeField : String := c.typeOverride.getD (c.stem?.getD c.backendField ++ "_type")

/-- The fields to sort by: a polymorphic column goes by type, then by id. -/
def sortKeys : List String :=
  if c.kind = .polymorphic then [c.typeField, c.idField] else [c.sortField]

def associationName : String := (c.association.bind (·.name)).getD c.name

def associationMode : AssociationMode := (c.association.map (·.mode)).getD .idList

/-- The field in an index clause: a nested one carries its path. -/
def clauseField : String :=
  match c.kind with
  | .nested path =>
    if (path ++ ".").toList.isPrefixOf c.backendField.toList then c.backendField
    else path ++ "." ++ c.backendField
  | _ => c.backendField

end ColumnData

/-- What a search strategy makes of a term. -/
inductive CustomPredicate
  | sql (f : Sql.Fragment)
  | index (clause : Json)
  | unfiltered

/-- What an order strategy makes of a direction. -/
inductive CustomOrder
  | sql (terms : List String)
  | index (clauses : List Json)

def CustomPredicate.backend : CustomPredicate → String
  | sql _ => "relational"
  | index _ => "search index"
  | unfiltered => "any"

def CustomOrder.backend : CustomOrder → String
  | sql _ => "relational"
  | index _ => "search index"

/-- A definition whose predicate or order may be replaced by a strategy. -/
structure Column extends ColumnData where
  searchStrategy : Option (ColumnData → String → CustomPredicate) := none
  orderStrategy : Option (ColumnData → SortDirection → CustomOrder) := none

/-- The settings that a caller may choose for a column; the others take their defaults. -/
structure ColumnOptions where
  backendField : Option String := none
  search : Option SearchOptions := none
  nullOrdering : Option NullOrdering := none
  sortable : Option Bool := none
  sortField : Option String := none
  typeField : Option String := none
  association : Option AssociationOptions := none
  searchStrategy : Option (ColumnData → String → CustomPredicate) := none
  orderStrategy : Option (ColumnData → SortDirection → CustomOrder) := none

/-- Search-only columns are not sortable unless the options say so. -/
def ColumnOptions.define (o : ColumnOptions) (name : String) (kind : ColumnKind) : Column where
  name := name
  backendField := o.backendField.getD name
  kind := kind
  search := o.search.getD {}
  nullOrdering := o.nullOrdering.getD .backendDefault
  sortable := o.sortable.getD (kind != .searchOnly)
  sortOverride := o.sortField
  typeOverride := o.typeField
  association := o.association
  searchStrategy := o.searchStrategy
  orderStrategy := o.orderStrategy

end TableView
