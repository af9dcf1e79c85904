import TableView.Index.Aggregation

/-! The body of one search: clauses in groups, put together at the end. -/
namespace TableView.Index

structure Body where
  /-- Scored clauses. -/
  query : List Clause := []
  /-- Unscored clauses. -/
  filter : List Clause := []
  /-- Clauses on nested documents, by their path. -/
  nested : Fields (List Clause) := []
  sort : List Json := []
  aggregations : Fields Aggregation := []
  skip : Option Nat := none
  size : Option Nat := none
  trackTotalHits : Bool := true

namespace Body

def pushQuery (b : Body) (c : Clause) : Body := { b with query := b.query ++ [c] }

def pushFilter (b : Body) (c : Clause) : Body := { b with filter := b.filter ++ [c] }

def pushNested (b : Body) (path : String) (c : Clause) : Body :=
  { b with nested := b.nested.insert path ((b.nested.get? path).getD [] ++ [c]) }

def hasAggregation (b : Body) (key : String) : Bool := b.aggregations.contains key

/-- Adds an aggregation under a key that is not in use yet. -/
def addAggregation (b : Body) (key : String) (a : Aggregation) : Body :=
  if b.hasAggregation key then b else { b with aggregations := b.aggregations.insert key a }

def removeAggregation (b : Body) (key : String) : Body :=
  { b with aggregations := b.aggregations.erase key }

/-- All clauses on the nested documents of one path hold of the same document. -/
def nestedJson (path : String) (clauses : List Clause) : Json :=
  Clause.single "nested" (.obj [("path", .str path), ("query", (Clause.all clauses).toJson)])

def boolQuery (b : Body) : Json :=
  Clause.single "bool" (.obj [
    ("filter", .arr (b.filter.map Clause.toJson ++ b.nested.map fun (p, cs) => nestedJson p cs)),
    ("must", .arr (Clause.single "match_all" (.obj []) :: b.query.map Clause.toJson))])

/-- The whole search; parts without content are left out. -/
def toJson (b : Body) : Json :=
  let part := fun (present : Bool) (key : String) (j : Json) => if present then [(key, j)] else []
  .obj (part (!b.aggregations.isEmpty) "aggs"
      (.obj (b.aggregations.map fun (key, a) => (key, a.toJson))) ++
    part b.skip.isSome "from" (.nat (b.skip.getD 0)) ++
    [("query", b.boolQuery)] ++
    part b.size.isSome "size" (.nat (b.size.getD 0)) ++
    part (!b.sort.isEmpty) "sort" (.arr b.sort) ++
    [("track_total_hits", .bool b.trackTotalHits)])

/-- Asks for no documents, only for the number of all. -/
def countAll : Json := .obj [("size", .int 0), ("track_total_hits", .bool true)]

end Body
end TableView.Index
