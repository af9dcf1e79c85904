import Mathlib.Algebra.BigOperators.Group.List.Basic
import Mathlib.Data.List.Dedup
import Mathlib.Algebra.Ring.Rat
import TableView.Aggregate.Buckets
import TableView.Proofs.Fields
import TableView.Proofs.Index.Reading

/-! The documented meaning of aggregations over the documents of an index. -/
namespace TableView.Index

/-- A document has at most one value in each field. -/
abbrev Doc (ν : Type) := String → Option ν

/-- What an index knows about the values that its documents hold. -/
structure Engine (ν : Type) [DecidableEq ν] where
  /-- Whether a value is the one that is asked for. -/
  isValue : ν → Json → Bool
  /-- What a value adds to a sum. -/
  amount : ν → ℚ
  /-- The start of the calendar interval that a date lies in. -/
  floor : String → ν → ν
  key : ν → Json
  /-- How a key is spelled in a format, where the index spells it at all. -/
  spell : Option String → ν → Option String
  number : ℚ → Json.Number
  /-- Buckets come in an order of the index's own. -/
  arrange : List (Doc ν) → List ν → List ν
  arrange_perm : ∀ docs values, (arrange docs values).Perm values

namespace Engine
variable {ν : Type} [DecidableEq ν] (E : Engine ν)

def leaf (d : Doc ν) : Json → Bool
  | .obj [("term", .obj [(field, sought)])] => (d field).any (E.isValue · sought)
  | .obj [("exists", .obj [("field", .str field)])] => (d field).isSome
  | _ => false

def selected (query : Json) (docs : List (Doc ν)) : List (Doc ν) :=
  docs.filter fun d => holds (E.leaf d) query

/-- The exact sum of a field; documents without it add nothing. -/
def total (field : String) (docs : List (Doc ν)) : ℚ :=
  ((docs.filterMap (· field)).map E.amount).sum

/-- The answers to named aggregations over some documents. -/
abbrev Answers (ν : Type) := List (Doc ν) → Fields Json

def bucket (format : Option String) (children : Answers ν) (docs : List (Doc ν)) (v : ν) : Json :=
  Json.ofFields (children docs ++ [("key", E.key v), ("doc_count", .nat docs.length)] ++
    ((E.spell format v).map fun s => ("key_as_string", .str s)).toList)

/-- One bucket for each value there is, up to a number of buckets. -/
def buckets (value : Doc ν → Option ν) (limit : Option Nat) (format : Option String)
    (children : Answers ν) (docs : List (Doc ν)) : Json :=
  let values := E.arrange docs (docs.filterMap value).dedup
  let values := values.take (limit.getD values.length)
  .obj [("buckets", .arr (values.map fun v =>
    E.bucket format children (docs.filter (value · = some v)) v))]

def field (options : Json) : String := ((options.get? "field").bind Json.string?).getD ""

/-- The answer to one aggregation, given the answers to those inside of it. By terms there are ten
buckets unless a number is asked for. -/
def answer (children : Answers ν) (docs : List (Doc ν)) (kind : String) (options : Json) : Json :=
  match kind with
  | "filter" =>
    let docs := E.selected options docs
    Json.ofFields (children docs ++ [("doc_count", .nat docs.length)])
  | "terms" =>
    let size := ((options.get? "size").bind Json.nat?).getD 10
    E.buckets (· (field options)) (some size) none children docs
  | "date_histogram" =>
    let interval := ((options.get? "calendar_interval").bind Json.string?).getD ""
    let format := (options.get? "format").bind Json.string?
    E.buckets (fun d => (d (field options)).map (E.floor interval)) none format children docs
  | "sum" => .obj [("value", .num (E.number (E.total (field options) docs)))]
  | _ => .null

mutual

/-- What an aggregation answers over some documents. -/
def evaluate : Json → List (Doc ν) → Json
  | .obj parts => fun docs =>
    match parts.find? fun part => part.1 != "aggs" with
    | some (kind, options) => E.answer (children parts) docs kind options
    | none => .null
  | _ => fun _ => .null

/-- The answers to the aggregations inside of one. -/
def children : List (String × Json) → Answers ν
  | [] => fun _ => []
  | ("aggs", .obj named) :: _ => evaluateAll named
  | _ :: rest => children rest

/-- Each aggregation is answered under its name. -/
def evaluateAll : List (String × Json) → Answers ν
  | [] => fun _ => []
  | (name, body) :: rest => fun docs => (name, evaluate body docs) :: evaluateAll rest docs

end

variable {E} {docs : List (Doc ν)} {d : Doc ν}

theorem holds_term (name : String) (sought : Json) :
    holds (E.leaf d) (Clause.term name sought).toJson = (d name).any (E.isValue · sought) := by
  rw [Clause.toJson, Clause.onField, holds_leaf _ (by decide) (by decide)]
  rfl

theorem holds_exists (name : String) :
    holds (E.leaf d) (Clause.exists name).toJson = (d name).isSome := by
  rw [Clause.toJson, Clause.onField, holds_leaf _ (by decide) (by decide)]
  rfl

def sumAnswers (E : Engine ν) (sums : Fields String) : Answers ν := fun docs =>
  sums.map fun e => (e.1, .obj [("value", .num (E.number (E.total e.2 docs)))])

theorem evaluateAll_sums (sums : Fields String) :
    E.evaluateAll (sums.map fun (name, field) =>
      (name, Clause.onField "sum" "field" (.str field))) = E.sumAnswers sums := by
  funext docs
  induction sums with
  | nil => rfl
  | cons e sums ih =>
    calc E.evaluateAll ((e :: sums).map fun (name, field) =>
          (name, Clause.onField "sum" "field" (.str field))) docs
        = (e.1, .obj [("value", .num (E.number (E.total e.2 docs)))]) ::
            E.evaluateAll (sums.map fun (name, field) =>
              (name, Clause.onField "sum" "field" (.str field))) docs := rfl
      _ = E.sumAnswers (e :: sums) docs := by rw [ih]; rfl

theorem evaluate_filtered (c : Clause) (a : Aggregation) (docs : List (Doc ν)) :
    E.evaluate (Aggregation.filtered c a).toJson docs =
      Json.ofFields [("buckets", E.evaluate a.toJson (E.selected c.toJson docs)),
        ("doc_count", .nat (E.selected c.toJson docs).length)] := rfl

theorem children_sumsEntry (sums : Fields String) (g : Grouping) :
    E.children (Aggregation.sumsEntry sums ++ [g.entry]) = E.sumAnswers sums := by
  cases sums with
  | nil => cases g <;> rfl
  | cons e sums => exact evaluateAll_sums (e :: sums)

theorem find?_sumsEntry (sums : Fields String) (g : Grouping) :
    (Aggregation.sumsEntry sums ++ [g.entry]).find? (fun part => part.1 != "aggs") =
      some g.entry := by
  cases sums <;> cases g <;> rfl

theorem evaluate_buckets (g : Grouping) (sums : Fields String) (docs : List (Doc ν)) :
    E.evaluate (Aggregation.buckets g sums).toJson docs =
      E.answer (E.sumAnswers sums) docs g.entry.1 g.entry.2 := by
  rw [Aggregation.toJson, evaluate, find?_sumsEntry, children_sumsEntry]

theorem evaluate_terms (name : String) (size : UInt32) (sums : Fields String)
    (docs : List (Doc ν)) :
    E.evaluate (Aggregation.buckets (.terms name size) sums).toJson docs =
      E.buckets (· name) (some size.toNat) none (E.sumAnswers sums) docs := by
  rw [evaluate_buckets]
  rfl

theorem evaluate_dateHistogram (name interval : String) (format : Option String)
    (sums : Fields String) (docs : List (Doc ν)) :
    E.evaluate (Aggregation.buckets (.dateHistogram name interval format) sums).toJson docs =
      E.buckets (fun d => (d name).map (E.floor interval)) none format (E.sumAnswers sums)
        docs := by
  rw [evaluate_buckets]
  cases format <;> rfl

end Engine
end TableView.Index
