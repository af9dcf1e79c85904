import TableView.Index.Clause

/-! Aggregations of indexed documents. -/
namespace TableView.Index

/-- What documents are grouped by. -/
inductive Grouping
  | terms (field : String) (size : UInt32)
  | dateHistogram (field interval : String) (format : Option String)

inductive Aggregation
  /-- Buckets with named sums of fields in each. -/
  | buckets (grouping : Grouping) (sums : Fields String)
  /-- An aggregation of the selected documents, under the name `buckets`. -/
  | filtered (filter : Clause) (inner : Aggregation)
  | raw (body : Json)

namespace Grouping

def entry : Grouping → String × Json
  | terms field size => ("terms", .obj [("field", .str field), ("size", .nat size.toNat)])
  | dateHistogram field interval format =>
    ("date_histogram", .obj ([("calendar_interval", .str interval), ("field", .str field)] ++
      (format.map fun f => ("format", .str f)).toList))

end Grouping

namespace Aggregation

def sumsEntry (sums : Fields String) : List (String × Json) :=
  let sum := fun (field : String) => Clause.onField "sum" "field" (.str field)
  if sums.isEmpty then [] else [("aggs", .obj (sums.map fun (name, field) => (name, sum field)))]

def toJson : Aggregation → Json
  | buckets grouping sums => .obj (sumsEntry sums ++ [grouping.entry])
  | filtered filter inner =>
    .obj [("aggs", Clause.single "buckets" inner.toJson), ("filter", filter.toJson)]
  | raw body => body

end Aggregation
end TableView.Index
