import TableView.Proofs.Aggregate.Evaluation

/-! What a request for an aggregate decodes to is a grouping of the documents. -/
namespace TableView
open Index (Aggregation Clause Doc Engine Grouping)

section
variable {δ α : Type} {key : δ → Option String} {value : List δ → α} {docs : List δ}

/-- Maps the key of each group to a value of the group; what has no key is in no group. -/
def groupBy (key : δ → Option String) (value : List δ → α) (docs : List δ) : Fields α :=
  Fields.ofList ((docs.filterMap key).map fun k => (k, value (docs.filter (key · = some k))))

theorem get?_groupBy (k : String) : (groupBy key value docs).get? k =
    if ∃ d ∈ docs, key d = some k then some (value (docs.filter (key · = some k))) else none := by
  rw [groupBy, Fields.get?_tabulate]
  simp only [List.mem_filterMap]

theorem ascending_groupBy : (groupBy key value docs).Ascending := Fields.ascending_ofList _

/-- Only what has a key counts. -/
theorem groupBy_filter {p : δ → Bool} (hp : ∀ d k, key d = some k → p d = true) :
    groupBy key value (docs.filter p) = groupBy key value docs := by
  apply ascending_groupBy.ext ascending_groupBy
  intro k
  have hgroup : (docs.filter p).filter (key · = some k) = docs.filter (key · = some k) := by
    rw [List.filter_filter]
    apply List.filter_congr
    intro d _
    by_cases hk : key d = some k
    · simp [hk, hp d k hk]
    · simp [hk]
  have hthere : (∃ d ∈ docs.filter p, key d = some k) ↔ ∃ d ∈ docs, key d = some k := by
    constructor
    · rintro ⟨d, hd, hk⟩
      exact ⟨d, List.mem_of_mem_filter hd, hk⟩
    · rintro ⟨d, hd, hk⟩
      exact ⟨d, List.mem_filter.mpr ⟨hd, hp d k hk⟩, hk⟩
  rw [get?_groupBy, get?_groupBy, hgroup]
  simp only [hthere]

end

/-- The nearest double of a whole number, a double itself. -/
def Json.Number.toFloat : Json.Number → Float
  | int n => Float.ofInt n
  | float x => x

/-- Whether groups are intervals of time. -/
def AggregateKind.isHistogram : AggregateKind → Bool
  | dateHistogramCount | dateHistogramSumWithFilter => true
  | _ => false

namespace AggregateSpec
variable {ν : Type} [DecidableEq ν] (E : Engine ν) (s : AggregateSpec)

/-- The bucket that a value falls in: an interval of time or the value itself. -/
def place : ν → ν :=
  if s.kind.isHistogram then E.floor (s.options.interval.getD "month") else id

def bucketValue (d : Doc ν) : Option ν := (d s.field).map (s.place E)

/-- Only dates are spelled in a format. -/
def spelling : Option String := if s.kind.isHistogram then s.options.format else none

def keyText (v : ν) : String :=
  match E.spell s.spelling v, E.key v with
  | some text, _ => text
  | none, .str text => text
  | none, key => key.compact

/-- The key of the group that a document belongs to. -/
def groupKey (d : Doc ν) : Option String := (s.bucketValue E d).map (s.keyText E)

/-- The number of buckets that are asked for; intervals of time are not limited. -/
def limit (settings : Settings) : Option Nat :=
  if s.kind.isHistogram then none
  else some (s.options.size.getD settings.termsAggregationSize).toNat

/-- The values that documents must have; counting takes no filter. -/
def pairs : Fields Json :=
  match s.kind with
  | .termsCount | .dateHistogramCount => []
  | _ => s.options.filter.getD []

/-- The documents that have all these values. -/
def having (pairs : Fields Json) (docs : List (Doc ν)) : List (Doc ν) :=
  docs.filter fun d => pairs.all fun e => (d e.1).any (E.isValue · e.2)

def sumOf (field : String) (docs : List (Doc ν)) : Float :=
  (E.number (E.total field docs)).toFloat

/-- The value of each group: its size, a sum, or a sum for each field. -/
def grouped (docs : List (Doc ν)) : Buckets :=
  match s.kind with
  | .termsCount | .dateHistogramCount => .counts (groupBy (s.groupKey E) List.length docs)
  | .dateHistogramSumWithFilter | .filteredTermsSum =>
    .sums (groupBy (s.groupKey E) (sumOf E (s.options.sumOver.headD "")) docs)
  | .filteredTermsMultiSum =>
    .multiSums (groupBy (s.groupKey E) (fun group =>
      Fields.ofList (s.options.sumOver.map fun field => (field, sumOf E field group))) docs)
  | .raw => .raw .null

/-- The bucket values of documents, each once. -/
def bucketValues (docs : List (Doc ν)) : List ν := (docs.filterMap (s.bucketValue E)).dedup

/-- There are no more buckets than are asked for, and no two of one key. -/
structure Separates (settings : Settings) (docs : List (Doc ν)) : Prop where
  fits : ∀ n, s.limit settings = some n → (s.bucketValues E docs).length ≤ n
  distinct : ∀ v ∈ s.bucketValues E docs, ∀ w ∈ s.bucketValues E docs,
    s.keyText E v = s.keyText E w → v = w

variable {E s} {settings : Settings} {docs : List (Doc ν)} {sums : Fields String} {α : Type}

/-- Names of sums are not those of a bucket's own fields, and each stands for one field. -/
structure Apart (sums : Fields String) : Prop where
  names : ∀ e ∈ sums, e.1 ≠ "key" ∧ e.1 ≠ "doc_count" ∧ e.1 ≠ "key_as_string"
  fields : ∀ name field field', (name, field) ∈ sums → (name, field') ∈ sums → field' = field

section Bucket
variable {format : Option String} {v : ν}

theorem get?_bucket (key : String) :
    (E.bucket format (E.sumAnswers sums) docs v).get? key =
      (Fields.get? ((E.spell format v).map fun s => ("key_as_string", Json.str s)).toList key).or
        ((Fields.get? [("doc_count", .nat docs.length), ("key", E.key v)] key).or
          (Fields.get? (E.sumAnswers sums docs).reverse key)) := by
  rw [Engine.bucket, Json.ofFields, Json.get?, Fields.get?_ofList, List.reverse_append,
    List.reverse_append, Fields.get?_append, Fields.get?_append]
  cases E.spell format v <;> rfl

theorem get?_sumAnswers_reverse (key : String) (hkey : ∀ e ∈ sums, e.1 ≠ key) :
    Fields.get? (E.sumAnswers sums docs).reverse key = none := by
  rw [Fields.get?_eq_none_iff]
  intro e he
  obtain ⟨f, hf, rfl⟩ := List.mem_map.mp (List.mem_reverse.mp he)
  exact hkey f hf

theorem docCount_bucket : docCount (E.bucket format (E.sumAnswers sums) docs v) = docs.length := by
  rw [docCount, get?_bucket]
  cases E.spell format v <;> rfl

theorem bucketKey_bucket (hsums : Apart sums) :
    bucketKey (E.bucket s.spelling (E.sumAnswers sums) docs v) = s.keyText E v := by
  have hspelled : Fields.get? (E.sumAnswers sums docs).reverse "key_as_string" = none :=
    get?_sumAnswers_reverse _ fun e he => (hsums.names e he).2.2
  rw [bucketKey, get?_bucket, get?_bucket, hspelled, keyText]
  cases E.spell s.spelling v with
  | some text => rfl
  | none => cases E.key v <;> rfl

theorem sumValue_bucket (hsums : Apart sums) {name field : String} (hm : (name, field) ∈ sums) :
    sumValue (E.bucket format (E.sumAnswers sums) docs v) name = sumOf E field docs := by
  obtain ⟨hkey, hcount, hspelled⟩ := hsums.names _ hm
  have hanswer : Fields.get? (E.sumAnswers sums docs).reverse name =
      some (.obj [("value", .num (E.number (E.total field docs)))]) := by
    apply Fields.get?_of_mem
    · exact List.mem_reverse.mpr (List.mem_map.mpr ⟨(name, field), hm, rfl⟩)
    · intro w hw
      obtain ⟨⟨n, f⟩, hf, he⟩ := List.mem_map.mp (List.mem_reverse.mp hw)
      obtain ⟨rfl, rfl⟩ := Prod.mk.inj he
      rw [hsums.fields _ _ _ hm hf]
  have hbucket : (E.bucket format (E.sumAnswers sums) docs v).get? name =
      some (.obj [("value", .num (E.number (E.total field docs)))]) := by
    rw [get?_bucket, hanswer]
    cases E.spell format v <;> simp [Ne.symm hkey, Ne.symm hcount, Ne.symm hspelled]
  rw [sumValue, hbucket, sumOf]
  cases E.number (E.total field docs) <;> rfl

end Bucket

theorem mem_bucketValues {v : ν} :
    v ∈ s.bucketValues E docs ↔ ∃ d ∈ docs, s.bucketValue E d = some v := by
  rw [bucketValues, List.mem_dedup, List.mem_filterMap]

theorem exists_bucketValues_iff {k : String} :
    (∃ v ∈ s.bucketValues E docs, s.keyText E v = k) ↔ ∃ d ∈ docs, s.groupKey E d = some k := by
  simp only [mem_bucketValues, groupKey, Option.map_eq_some_iff]
  constructor
  · rintro ⟨v, ⟨d, hd, hv⟩, hk⟩
    exact ⟨d, hd, v, hv, hk⟩
  · rintro ⟨d, hd, v, hv, hk⟩
    exact ⟨v, ⟨d, hd, hv⟩, hk⟩

/-- The documents of one bucket are those of one key. -/
theorem Separates.filter_groupKey (hs : s.Separates E settings docs) {v : ν}
    (hv : v ∈ s.bucketValues E docs) :
    docs.filter (s.groupKey E · = some (s.keyText E v)) =
      docs.filter (s.bucketValue E · = some v) := by
  apply List.filter_congr
  intro d hd
  rw [groupKey, decide_eq_decide, Option.map_eq_some_iff]
  constructor
  · rintro ⟨w, hw, hkey⟩
    rw [hw, hs.distinct w (mem_bucketValues.mpr ⟨d, hd, hw⟩) v hv hkey]
  · exact fun h => ⟨v, h, rfl⟩

/-- As many buckets are asked for as there are. -/
theorem Separates.take_arrange (hs : s.Separates E settings docs) :
    let values := E.arrange docs (s.bucketValues E docs)
    values.take ((s.limit settings).getD values.length) = values := by
  intro values
  apply List.take_of_length_le
  cases hlimit : s.limit settings with
  | none => exact Nat.le_refl _
  | some n => exact (E.arrange_perm docs _).length_eq.trans_le (hs.fits n hlimit)

/-- Buckets are read as the groups of the documents. -/
theorem collect_buckets (hs : s.Separates E settings docs) (hsums : Apart sums) {f : Json → α}
    {value : List (Doc ν) → α}
    (hf : ∀ v group, f (E.bucket s.spelling (E.sumAnswers sums) group v) = value group) :
    ∃ bs, E.buckets (s.bucketValue E) (s.limit settings) s.spelling (E.sumAnswers sums) docs =
        .obj [("buckets", .arr bs)] ∧
      collect f bs = groupBy (s.groupKey E) value docs := by
  refine ⟨_, rfl, ?_⟩
  let values := E.arrange docs (s.bucketValues E docs)
  have hmem : ∀ v, v ∈ values ↔ v ∈ s.bucketValues E docs := fun v =>
    (E.arrange_perm docs (s.bucketValues E docs)).mem_iff
  calc collect f _
      = Fields.ofList (values.map fun v =>
          (s.keyText E v, value (docs.filter (s.bucketValue E · = some v)))) := by
        rw [collect, ← bucketValues, hs.take_arrange, List.map_map]
        simp only [Function.comp_def, bucketKey_bucket hsums, hf, values]
    _ = Fields.ofList ((values.map (s.keyText E)).map fun k =>
          (k, value (docs.filter (s.groupKey E · = some k)))) := by
        rw [List.map_map]
        congr 1
        apply List.map_congr_left
        intro v hv
        rw [← hs.filter_groupKey ((hmem v).mp hv)]
        rfl
    _ = groupBy (s.groupKey E) value docs := by
        apply Fields.tabulate_congr
        intro k
        simp only [List.mem_map, hmem, List.mem_filterMap]
        exact exists_bucketValues_iff

/-- What the request groups by. -/
def grouping (s : AggregateSpec) (settings : Settings) : Grouping :=
  if s.kind.isHistogram then s.byDate else s.byTerms settings

theorem grouping_terms (h : s.kind.isHistogram = false) :
    s.grouping settings = s.byTerms settings := by
  simp only [grouping, h, Bool.false_eq_true, if_false]

theorem grouping_date (h : s.kind.isHistogram = true) : s.grouping settings = s.byDate := by
  simp only [grouping, h, if_true]

theorem evaluate_grouping (sums : Fields String) :
    E.evaluate (Aggregation.buckets (s.grouping settings) sums).toJson docs =
      E.buckets (s.bucketValue E) (s.limit settings) s.spelling (E.sumAnswers sums) docs := by
  cases hk : s.kind.isHistogram with
  | true =>
    have hvalue : s.bucketValue E = fun d => (d s.field).map
        (E.floor (s.options.interval.getD "month")) := by
      funext d
      simp only [bucketValue, place, hk, if_true]
    simp only [grouping_date hk, limit, spelling, hk, if_true, hvalue]
    exact Engine.evaluate_dateHistogram _ _ _ sums docs
  | false =>
    have hvalue : s.bucketValue E = fun d => d s.field := by
      funext d
      simp only [bucketValue, place, hk, Bool.false_eq_true, if_false, Option.map_id_fun, id]
    simp only [grouping_terms hk, limit, spelling, hk, Bool.false_eq_true, if_false, hvalue]
    exact Engine.evaluate_terms _ _ sums docs

theorem selected_documentFilter : E.selected s.documentFilter.toJson docs =
    (having E (s.options.filter.getD []) docs).filter fun d =>
      !(s.options.filter.getD []).isEmpty || (d s.field).isSome := by
  rw [Engine.selected, having, List.filter_filter]
  apply List.filter_congr
  intro d _
  unfold documentFilter
  cases s.options.filter.getD [] with
  | nil => simp [Engine.holds_exists]
  | cons e rest => simp [Index.holds_allOf, Engine.holds_term, List.all_map, Function.comp_def]

/-- The documents that a filtered request selects make the same groups as those with the values that
are asked for. -/
theorem bucketValues_filter {p : Doc ν → Bool} (hp : ∀ d, (d s.field).isSome → p d = true) :
    s.bucketValues E (docs.filter p) = s.bucketValues E docs := by
  rw [bucketValues, bucketValues, List.filterMap_filter]
  congr 2
  funext d
  cases hd : d s.field with
  | none => simp [bucketValue, hd]
  | some v => simp [hp d (by simp [hd])]

theorem apart_nil : Apart [] := ⟨by simp, by simp⟩

theorem apart_sum (field : String) : Apart [("sum", field)] where
  names := by simp
  fields := by
    intro name f g hf hg
    simp only [List.mem_singleton, Prod.mk.injEq] at hf hg
    rw [hf.2, hg.2]

theorem sumName_inj {f g : String} (h : sumName f = sumName g) : f = g := by
  have h := congrArg String.toList h
  rw [sumName, sumName, String.toList_append, String.toList_append] at h
  exact String.toList_inj.mp (List.append_cancel_left h)

theorem mem_sums {fields : List String} {e : String × String} :
    e ∈ Fields.ofList (fields.map fun field => (sumName field, field)) ↔
      e.1 = sumName e.2 ∧ e.2 ∈ fields := by
  obtain ⟨name, field⟩ := e
  have hall : ∀ f, (name, f) ∈ fields.map (fun field => (sumName field, field)) ↔
      name = sumName f ∧ f ∈ fields := by
    intro f
    simp only [List.mem_map, Prod.mk.injEq]
    constructor
    · rintro ⟨g, hg, rfl, rfl⟩
      exact ⟨rfl, hg⟩
    · rintro ⟨rfl, hf⟩
      exact ⟨f, hf, rfl, rfl⟩
  rw [(Fields.ascending_ofList _).mem_iff, ← hall]
  constructor
  · intro h
    rw [Fields.get?_ofList] at h
    exact List.mem_reverse.mp (Fields.mem_of_get? h)
  · intro h
    apply Fields.get?_ofList_of_mem h
    intro w hw
    exact sumName_inj (((hall w).mp hw).1.symm.trans ((hall field).mp h).1)

theorem apart_sums (fields : List String) :
    Apart (Fields.ofList (fields.map fun field => (sumName field, field))) where
  names := by
    intro e he
    have hne : ∀ other : String, ['s', 'u', 'm', '_'].isPrefixOf other.toList = false →
        e.1 ≠ other := by
      rintro _ hother rfl
      simp [(mem_sums.mp he).1, sumName, String.toList_append] at hother
    exact ⟨hne _ (by decide), hne _ (by decide), hne _ (by decide)⟩
  fields := by
    intro name f g hf hg
    exact sumName_inj ((mem_sums.mp hg).1.symm.trans (mem_sums.mp hf).1)

theorem sums_bucket (fields : List String) (format : Option String) (v : ν) :
    let sums := Fields.ofList (fields.map fun field => (sumName field, field))
    Fields.ofList (fields.map fun field =>
      (field, sumValue (E.bucket format (E.sumAnswers sums) docs v) (sumName field))) =
      Fields.ofList (fields.map fun field => (field, sumOf E field docs)) := by
  intro sums
  congr 1
  apply List.map_congr_left
  intro field hfield
  rw [sumValue_bucket (apart_sums _) (mem_sums.mpr ⟨rfl, hfield⟩)]

section Read
variable {f : Json → α} {value : List (Doc ν) → α} (wrap : Fields α → Buckets)

theorem read_buckets (hs : s.Separates E settings docs) (hsums : Apart sums)
    (hf : ∀ v group, f (E.bucket s.spelling (E.sumAnswers sums) group v) = value group) :
    (s.bucketsOf (E.evaluate (Aggregation.buckets (s.grouping settings) sums).toJson docs)).map
      (fun bs => wrap (collect f bs)) = .ok (wrap (groupBy (s.groupKey E) value docs)) := by
  obtain ⟨bs, hbs, hcollect⟩ := collect_buckets hs hsums hf
  rw [evaluate_grouping, hbs, ← hcollect]
  rfl

theorem read_filtered
    (hs : s.Separates E settings (having E (s.options.filter.getD []) docs)) (hsums : Apart sums)
    (hf : ∀ v group, f (E.bucket s.spelling (E.sumAnswers sums) group v) = value group) :
    (s.bucketsOf ((E.evaluate (Aggregation.filtered s.documentFilter
      (.buckets (s.grouping settings) sums)).toJson docs).getOrNull "buckets")).map
        (fun bs => wrap (collect f bs)) =
      .ok (wrap (groupBy (s.groupKey E) value (having E (s.options.filter.getD []) docs))) := by
  let p : Doc ν → Bool := fun d => !(s.options.filter.getD []).isEmpty || (d s.field).isSome
  have hp : ∀ d : Doc ν, (d s.field).isSome → p d = true := by
    intro d hd
    simp [p, hd]
  have hkeyed : ∀ d k, s.groupKey E d = some k → p d = true := by
    intro d k hk
    apply hp
    cases hd : d s.field with
    | none => simp [groupKey, bucketValue, hd] at hk
    | some v => rfl
  have hsep : s.Separates E settings ((having E (s.options.filter.getD []) docs).filter p) := by
    constructor <;> rw [bucketValues_filter hp]
    · exact hs.fits
    · exact hs.distinct
  have hinner : ∀ j k : Json,
      (Json.ofFields [("buckets", j), ("doc_count", k)]).getOrNull "buckets" = j := by
    simp [Json.ofFields, Json.getOrNull, Json.get?, Fields.get?_ofList]
  have hread := read_buckets wrap hsep hsums hf
  rw [groupBy_filter hkeyed, ← selected_documentFilter] at hread
  rw [Engine.evaluate_filtered, hinner]
  exact hread

end Read

theorem summed_eq_ok {g : Grouping} {a : Aggregation} (h : s.summed g = .ok a) :
    ∃ field rest, s.options.sumOver = field :: rest ∧
      a = .filtered s.documentFilter (.buckets g [("sum", field)]) := by
  unfold summed at h
  cases hsums : s.options.sumOver with
  | nil =>
    rw [hsums] at h
    cases h
  | cons field rest =>
    rw [hsums] at h
    exact ⟨field, rest, rfl, (Except.ok.inj h).symm⟩

/-- Decoding what the index answers to a compiled request gives the groups of the documents that the
request counts. -/
theorem decode_evaluate {a : Aggregation} (hkind : s.kind ≠ .raw)
    (hcompile : s.compile settings = .ok a)
    (hs : s.Separates E settings (having E s.pairs docs)) :
    s.decode (E.evaluate a.toJson docs) = .ok (s.grouped E (having E s.pairs docs)) := by
  have hall : having E [] docs = docs := by simp [having]
  cases hk : s.kind <;> simp only [compile, decode, grouped, pairs, hk] at hcompile hs ⊢
  case raw => exact absurd hk hkind
  case termsCount =>
    obtain rfl := Except.ok.inj hcompile
    rw [hall] at hs ⊢
    rw [← grouping_terms (by rw [hk]; rfl)]
    exact read_buckets .counts hs apart_nil fun _ _ => docCount_bucket
  case dateHistogramCount =>
    obtain rfl := Except.ok.inj hcompile
    rw [hall] at hs ⊢
    rw [← grouping_date (by rw [hk]; rfl)]
    exact read_buckets .counts hs apart_nil fun _ _ => docCount_bucket
  case dateHistogramSumWithFilter =>
    obtain ⟨field, rest, hfields, rfl⟩ := summed_eq_ok hcompile
    rw [hfields, ← grouping_date (by rw [hk]; rfl)]
    exact read_filtered .sums hs (apart_sum field) fun _ _ =>
      sumValue_bucket (apart_sum field) List.mem_cons_self
  case filteredTermsSum =>
    obtain ⟨field, rest, hfields, rfl⟩ := summed_eq_ok hcompile
    rw [hfields, ← grouping_terms (by rw [hk]; rfl)]
    exact read_filtered .sums hs (apart_sum field) fun _ _ =>
      sumValue_bucket (apart_sum field) List.mem_cons_self
  case filteredTermsMultiSum =>
    split at hcompile
    · cases hcompile
    · obtain rfl := Except.ok.inj hcompile
      rw [← grouping_terms (by rw [hk]; rfl)]
      exact read_filtered .multiSums hs (apart_sums _) fun v _ => sums_bucket _ _ v

end AggregateSpec

namespace Shop

inductive Value
  | text (s : String)
  | amount (n : Int)
deriving DecidableEq

/-- Dates are texts that start with year and month. -/
def engine : Engine Value where
  isValue
    | .text s, .str t => s = t
    | .amount m, .num (.int n) => m = n
    | _, _ => false
  amount
    | .text _ => 0
    | .amount n => n
  floor
    | "month", .text s => .text (String.ofList (s.toList.take 7))
    | _, v => v
  key
    | .text s => .str s
    | .amount n => .int n
  spell _ _ := none
  number q := .float (Float.ofInt q.num / Float.ofNat q.den)
  arrange _ values := values
  arrange_perm _ values := .refl values

def order (status region : String) (total : Int) : Doc Value
  | "status" => some (.text status)
  | "region" => some (.text region)
  | "total" => some (.amount total)
  | _ => none

def orders : List (Doc Value) :=
  [order "open" "west" 5, order "paid" "east" 7, order "open" "east" 2]

/-- Sums over the open orders of each region. -/
def openTotals : AggregateSpec where
  field := "region"
  kind := .filteredTermsMultiSum
  options := { filter := some [("status", .str "open")], sumOver := ["total", "tax"] }

/-- Orders by status, with a filter that counting has no use for. -/
def statuses : AggregateSpec where
  field := "status"
  kind := .termsCount
  options := { filter := some [("region", .str "west")] }

end Shop

namespace AggregateSpec
open Shop

theorem decode_evaluate_openTotals : ∃ a, openTotals.kind ≠ .raw ∧
    openTotals.compile {} = .ok a ∧
    openTotals.Separates engine {} (having engine openTotals.pairs orders) ∧
    openTotals.decode (engine.evaluate a.toJson orders) =
      .ok (openTotals.grouped engine (having engine openTotals.pairs orders)) := by
  have hvalues : openTotals.bucketValues engine (having engine openTotals.pairs orders) =
      [.text "west", .text "east"] := by decide
  have hsep : openTotals.Separates engine {} (having engine openTotals.pairs orders) := by
    constructor <;> rw [hvalues]
    · rintro n ⟨⟩
      decide
    · decide
  exact ⟨_, by decide, rfl, hsep, decode_evaluate (by decide) rfl hsep⟩

/-- Counting does not look at the filter. -/
theorem count_ignores_filter : ∃ a, statuses.compile {} = .ok a ∧
    statuses.Separates engine {} orders ∧
    statuses.decode (engine.evaluate a.toJson orders) ≠
      .ok (statuses.grouped engine (having engine (statuses.options.filter.getD []) orders)) := by
  have hvalues : statuses.bucketValues engine orders = [.text "paid", .text "open"] := by decide
  have hsep : statuses.Separates engine {} orders := by
    constructor <;> rw [hvalues]
    · rintro n ⟨⟩
      decide
    · decide
  have hdecode : statuses.decode (engine.evaluate
      (Aggregation.buckets (statuses.byTerms {}) []).toJson orders) =
      .ok (.counts (groupBy (statuses.groupKey engine) List.length orders)) :=
    read_buckets .counts hsep apart_nil fun _ _ => docCount_bucket
  refine ⟨_, rfl, hsep, ?_⟩
  rw [hdecode]
  intro h
  have hcounts := congrArg (Fields.get? · "open") (Buckets.counts.inj (Except.ok.inj h))
  simp only [get?_groupBy] at hcounts
  revert hcounts
  decide

end AggregateSpec
end TableView
