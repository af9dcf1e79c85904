import TableView.Aggregate.Compile

/-! Decoding what the index answers to an aggregation. -/
namespace TableView

/-- Decoded aggregates by bucket key. -/
inductive Buckets
  | counts (byKey : Fields Nat)
  | sums (byKey : Fields Float)
  | multiSums (byKey : Fields (Fields Float))
  | raw (result : Json)

namespace AggregateSpec
variable (s : AggregateSpec)

/-- The formatted key when there is one, else the key as text. -/
def bucketKey (bucket : Json) : String :=
  match (bucket.get? "key_as_string").bind Json.string? with
  | some key => key
  | none =>
    match bucket.get? "key" with
    | some (.str key) => key
    | some key => key.compact
    | none => ""

/-- The value of a named sum, zero when it is missing. -/
def sumValue (bucket : Json) (name : String) : Float :=
  (((bucket.get? name).bind (·.get? "value")).bind Json.float?).getD 0

def docCount (bucket : Json) : Nat := ((bucket.get? "doc_count").bind Json.nat?).getD 0

def bucketsOf (result : Json) : Except Error (List Json) :=
  match (result.get? "buckets").bind Json.items? with
  | some buckets => .ok buckets
  | none =>
    .error (.malformed "search index"
      (s.kind.word ++ " aggregate on " ++ s.field ++ " returned no buckets"))

/-- Reads every bucket under its key; of equal keys the last one wins. -/
def collect {α : Type} (value : Json → α) (buckets : List Json) : Fields α :=
  Fields.ofList (buckets.map fun b => (bucketKey b, value b))

/-- Decodes the answer to the compiled request. -/
def decode (result : Json) : Except Error Buckets :=
  match s.kind with
  | .raw => .ok (.raw result)
  | .termsCount | .dateHistogramCount =>
    (s.bucketsOf result).map fun bs => .counts (collect docCount bs)
  | .dateHistogramSumWithFilter | .filteredTermsSum =>
    (s.bucketsOf (result.getOrNull "buckets")).map fun bs => .sums (collect (sumValue · "sum") bs)
  | .filteredTermsMultiSum =>
    (s.bucketsOf (result.getOrNull "buckets")).map fun bs =>
      .multiSums (collect (fun b => Fields.ofList (s.options.sumOver.map fun field =>
        (field, sumValue b (sumName field)))) bs)

end AggregateSpec
end TableView
