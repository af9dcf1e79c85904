import TableView.Digest.Sha256
import TableView.Json.Decode
import TableView.Json.Printer

/-! Requests for aggregates. -/
namespace TableView

inductive AggregateKind
  | termsCount | dateHistogramCount | dateHistogramSumWithFilter
  | filteredTermsSum | filteredTermsMultiSum
  /-- A body given as it is. -/
  | raw
deriving DecidableEq, Repr

def AggregateKind.word : AggregateKind → String
  | termsCount => "terms_count"
  | dateHistogramCount => "date_histogram_count"
  | dateHistogramSumWithFilter => "date_histogram_sum_with_filter"
  | filteredTermsSum => "filtered_terms_sum"
  | filteredTermsMultiSum => "filtered_terms_multi_sum"
  | raw => "raw"

def AggregateKind.words : List (String × AggregateKind) :=
  [AggregateKind.termsCount, .dateHistogramCount, .dateHistogramSumWithFilter, .filteredTermsSum,
    .filteredTermsMultiSum, .raw].map fun k => (k.word, k)

structure AggregateOptions where
  interval : Option String := none
  format : Option String := none
  /-- Only documents with these values count. -/
  filter : Option (Fields Json) := none
  sumOver : List String := []
  size : Option UInt32 := none
  body : Option Json := none

structure AggregateSpec where
  field : String
  kind : AggregateKind
  options : AggregateOptions := {}

namespace AggregateOptions
open Json

/-- The options that are set, in a fixed order. -/
def toJson (o : AggregateOptions) : Json :=
  let entry := fun (key : String) (j : Option Json) => (j.map fun j => (key, j)).toList
  .obj (entry "interval" (o.interval.map .str) ++ entry "format" (o.format.map .str) ++
    entry "filter" (o.filter.map .obj) ++
    entry "sum_over" (if o.sumOver.isEmpty then none else some (.arr (o.sumOver.map .str))) ++
    entry "size" (o.size.map fun n => .nat n.toNat) ++ entry "body" o.body)

def ofJson? (j : Json) : Option AggregateOptions := do
  let ms ← members? ["interval", "format", "filter", "sum_over", "size", "body"] j
  return {
    interval := ← optional? ms "interval" string?
    format := ← optional? ms "format" string?
    filter := ← optional? ms "filter" (mapOf? some)
    sumOver := ← defaulted? ms "sum_over" (listOf? string?) []
    size := ← optional? ms "size" uint32?
    body := ← optional? ms "body" some }

end AggregateOptions

namespace AggregateSpec
open Json

/-- The text that tells a request from all others. -/
def identity (s : AggregateSpec) : String :=
  s.field ++ "_" ++ s.kind.word ++ "_" ++ s.options.toJson.compact

/-- The name under which the index computes the aggregate. -/
def key (s : AggregateSpec) : String := Digest.sha256Hex s.identity

def ofJson? (j : Json) : Option AggregateSpec := do
  let ms ← members? ["field", "kind", "options"] j
  return {
    field := ← required? ms "field" string?
    kind := ← required? ms "kind" (word? AggregateKind.words)
    options := ← defaulted? ms "options" AggregateOptions.ofJson? {} }

end AggregateSpec

end TableView
