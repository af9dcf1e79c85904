import TableView.Aggregate.Spec
import TableView.Error
import TableView.Index.Aggregation
import TableView.Settings

/-! The aggregation that a request asks of the index. -/
namespace TableView

namespace AggregateSpec
open Index
variable (s : AggregateSpec)

def missing {α : Type} (option : String) : Except Error α :=
  .error (.contract "aggregate"
    (s.kind.word ++ " aggregate on " ++ s.field ++ " requires " ++ option))

def byTerms (settings : Settings) : Grouping :=
  .terms s.field (s.options.size.getD settings.termsAggregationSize)

/-- Months, unless the options name another interval. -/
def byDate : Grouping := .dateHistogram s.field (s.options.interval.getD "month") s.options.format

/-- The documents with the asked-for values, else those that have the field. -/
def documentFilter : Clause :=
  match s.options.filter.getD [] with
  | [] => .exists s.field
  | fs => .allOf (fs.map fun (field, value) => .term field value)

def summed (grouping : Grouping) : Except Error Aggregation :=
  match s.options.sumOver with
  | [] => s.missing "sum_over"
  | field :: _ => .ok (.filtered s.documentFilter (.buckets grouping [("sum", field)]))

/-- The name of a field's sum among several. -/
def sumName (field : String) : String := "sum_" ++ field

/-- Compiles the request; each kind has options that it cannot do without. -/
def compile (settings : Settings) : Except Error Aggregation :=
  match s.kind with
  | .termsCount => .ok (.buckets (s.byTerms settings) [])
  | .dateHistogramCount => .ok (.buckets s.byDate [])
  | .dateHistogramSumWithFilter => s.summed s.byDate
  | .filteredTermsSum => s.summed (s.byTerms settings)
  | .filteredTermsMultiSum =>
    if s.options.sumOver.isEmpty then s.missing "sum_over"
    else
      let sums := Fields.ofList (s.options.sumOver.map fun field => (sumName field, field))
      .ok (.filtered s.documentFilter (.buckets (s.byTerms settings) sums))
  | .raw =>
    match s.options.body with
    | none => s.missing "body"
    | some body => .ok (.raw body)

end AggregateSpec
end TableView
