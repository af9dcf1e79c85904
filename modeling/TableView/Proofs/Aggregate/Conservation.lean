import Mathlib.Algebra.BigOperators.Group.List.Basic
import Mathlib.Algebra.GroupWithZero.Nat
import Mathlib.Algebra.Order.Ring.Rat
import TableView.Aggregate.Buckets
import TableView.Proofs.Fields

/-! What becomes of the documents and sums of an answer when its buckets are read into a map. -/
namespace TableView

/-- The number that a double stands for; zero for one that stands for none. -/
def rational (x : Float) : ℚ :=
  match x.toModel.unpack with
  | .finite .positive mantissa exponent _ => mantissa * 2 ^ exponent
  | .finite .negative mantissa exponent _ => -(mantissa * 2 ^ exponent)
  | _ => 0

namespace AggregateSpec
variable {α M : Type} {bs : List Json} {result : Json} {s : AggregateSpec}

/-- The buckets that have another after them under the same key. -/
def replaced : List Json → List Json
  | [] => []
  | b :: bs => if ∃ later ∈ bs, bucketKey later = bucketKey b then b :: replaced bs else replaced bs

theorem replaced_eq_nil_iff : replaced bs = [] ↔ (bs.map bucketKey).Nodup := by
  induction bs with
  | nil => simp [replaced]
  | cons b bs ih =>
    have hmem : bucketKey b ∈ bs.map bucketKey ↔ ∃ later ∈ bs, bucketKey later = bucketKey b :=
      List.mem_map
    rw [replaced, List.map_cons, List.nodup_cons, hmem]
    split
    case isTrue h => simp [h]
    case isFalse h => simp [h, ih]

/-- The entries of a map that none of the buckets replaces. -/
def staying (bs : List Json) (fs : Fields α) : Fields α :=
  fs.filter fun e => ∀ b ∈ bs, bucketKey b ≠ e.1

theorem staying_erase (b : Json) (bs : List Json) (fs : Fields α) :
    staying bs (Fields.erase fs (bucketKey b)) = staying (b :: bs) fs := by
  rw [staying, Fields.erase, List.filter_filter]
  refine List.filter_congr fun e _ => Bool.eq_iff_iff.mpr ?_
  rw [Bool.and_eq_true, decide_eq_true_eq, decide_eq_true_eq, bne_iff_ne, List.forall_mem_cons,
    and_comm, ne_comm]

theorem foldl_insert_perm (value : Json → α) (bs : List Json) {fs : Fields α} (hfs : fs.Ascending) :
    ((bs.map fun b => (bucketKey b, value b)).foldl (fun fs e => Fields.insert fs e.1 e.2) fs ++
      (replaced bs).map fun b => (bucketKey b, value b)).Perm
    (staying bs fs ++ bs.map fun b => (bucketKey b, value b)) := by
  induction bs generalizing fs with
  | nil => simp [replaced, staying]
  | cons b bs ih =>
    have hrest := ih (hfs.insert (bucketKey b) (value b))
    have hinsert := (hfs.insert_perm (bucketKey b) (value b)).filter
      fun e => decide (∀ b ∈ bs, bucketKey b ≠ e.1)
    rw [replaced, ← staying_erase]
    split
    case isTrue hlater =>
      rw [List.filter_cons_of_neg (by simpa using hlater)] at hinsert
      have hafter := hrest.trans (hinsert.append_right _)
      exact List.perm_middle.trans ((hafter.cons _).trans List.perm_middle.symm)
    case isFalse hlast =>
      rw [List.filter_cons_of_pos (by simpa using hlast)] at hinsert
      exact (hrest.trans (hinsert.append_right _)).trans List.perm_middle.symm

/-- Every bucket is an entry of the map or replaced, and nothing else is in the map. -/
theorem collect_perm (value : Json → α) (bs : List Json) :
    (collect value bs ++ (replaced bs).map fun b => (bucketKey b, value b)).Perm
      (bs.map fun b => (bucketKey b, value b)) :=
  foldl_insert_perm value bs Fields.ascending_nil

/-- What the map holds and what the replaced buckets hold make up what all buckets hold. -/
theorem collect_sum [AddCommMonoid M] (value : Json → α) (amount : α → M) (bs : List Json) :
    ((collect value bs).map fun e => amount e.2).sum +
      ((replaced bs).map fun b => amount (value b)).sum =
        (bs.map fun b => amount (value b)).sum := by
  have hperm := (collect_perm value bs).map fun e => amount e.2
  rw [List.map_append, List.map_map, List.map_map] at hperm
  rw [← List.sum_append]
  exact hperm.sum_eq

theorem bucketsOf_eq (h : result.get? "buckets" = some (.arr bs)) :
    s.bucketsOf result = .ok bs := by
  rw [bucketsOf, h]
  rfl

theorem decode_counts (hkind : s.kind = .termsCount ∨ s.kind = .dateHistogramCount)
    (h : result.get? "buckets" = some (.arr bs)) :
    s.decode result = .ok (.counts (collect docCount bs)) := by
  rcases hkind with hkind | hkind <;> rw [decode, hkind] <;> simp only [bucketsOf_eq h] <;> rfl

theorem decode_sums
    (hkind : s.kind = .dateHistogramSumWithFilter ∨ s.kind = .filteredTermsSum)
    (h : (result.getOrNull "buckets").get? "buckets" = some (.arr bs)) :
    s.decode result = .ok (.sums (collect (sumValue · "sum") bs)) := by
  rcases hkind with hkind | hkind <;> rw [decode, hkind] <;> simp only [bucketsOf_eq h] <;> rfl

theorem decode_multiSums (hkind : s.kind = .filteredTermsMultiSum)
    (h : (result.getOrNull "buckets").get? "buckets" = some (.arr bs)) :
    s.decode result = .ok (.multiSums (collect (fun b => Fields.ofList
      (s.options.sumOver.map fun field => (field, sumValue b (sumName field)))) bs)) := by
  rw [decode, hkind]
  simp only [bucketsOf_eq h]
  rfl

/-- Decoding loses the documents and the sums of the buckets that have another after them under the
same key, and those only: with them the decoded ones are all that the answer has. -/
theorem decode_conserves (s : AggregateSpec) (result : Json) :
    (s.kind = .termsCount ∨ s.kind = .dateHistogramCount →
      ∀ bs, result.get? "buckets" = some (.arr bs) →
        ∃ counts, s.decode result = .ok (.counts counts) ∧
          (counts.map Prod.snd).sum + ((replaced bs).map docCount).sum = (bs.map docCount).sum) ∧
    (s.kind = .dateHistogramSumWithFilter ∨ s.kind = .filteredTermsSum →
      ∀ bs, (result.getOrNull "buckets").get? "buckets" = some (.arr bs) →
        ∃ sums, s.decode result = .ok (.sums sums) ∧
          (sums.map fun e => rational e.2).sum +
              ((replaced bs).map fun b => rational (sumValue b "sum")).sum =
            (bs.map fun b => rational (sumValue b "sum")).sum) ∧
    (s.kind = .filteredTermsMultiSum →
      ∀ bs, (result.getOrNull "buckets").get? "buckets" = some (.arr bs) →
        ∃ sums, s.decode result = .ok (.multiSums sums) ∧ ∀ field ∈ s.options.sumOver,
          (sums.map fun e => rational ((e.2.get? field).getD 0)).sum +
              ((replaced bs).map fun b => rational (sumValue b (sumName field))).sum =
            (bs.map fun b => rational (sumValue b (sumName field))).sum) ∧
    ∀ bs, replaced bs = [] ↔ (bs.map bucketKey).Nodup := by
  refine ⟨fun hkind bs h => ?counts, fun hkind bs h => ?sums, fun hkind bs h => ?multiSums,
    fun _ => replaced_eq_nil_iff⟩
  case counts => exact ⟨_, decode_counts hkind h, collect_sum docCount id bs⟩
  case sums => exact ⟨_, decode_sums hkind h, collect_sum (sumValue · "sum") rational bs⟩
  case multiSums =>
    refine ⟨_, decode_multiSums hkind h, fun field hfield => ?_⟩
    have hsum := collect_sum (fun b => Fields.ofList
      (s.options.sumOver.map fun field => (field, sumValue b (sumName field))))
      (fun fields => rational ((fields.get? field).getD 0)) bs
    simpa only [Fields.get?_tabulate, hfield, if_true, Option.getD_some] using hsum

/-- Payments by month under keys that only tell the year. -/
def Yearly.payments (kind : AggregateKind) : AggregateSpec :=
  { field := "paid_at", kind, options := { format := some "yyyy", sumOver := ["price_cents"] } }

def Yearly.bucket (year : String) (count : Nat) (cents : Int) : Json :=
  let sum := .obj [("value", .int cents)]
  .obj [("doc_count", .nat count), ("key_as_string", .str year), ("sum", sum),
    ("sum_price_cents", sum)]

def Yearly.answer : List Json := [bucket "2020" 4 250, bucket "2020" 5 300, bucket "2021" 7 (-40)]

/-- Of the two months of one year the first is lost. -/
theorem decode_conserves_yearly :
    let counted := .obj [("buckets", .arr Yearly.answer)]
    let summed := .obj [("buckets", counted)]
    replaced Yearly.answer = Yearly.answer.take 1 ∧ Yearly.answer.map docCount = [4, 5, 7] ∧
    (∃ counts, (Yearly.payments .dateHistogramCount).decode counted = .ok (.counts counts) ∧
      (counts.map Prod.snd).sum + 4 = 16) ∧
    (∃ sums, (Yearly.payments .dateHistogramSumWithFilter).decode summed = .ok (.sums sums) ∧
      (sums.map fun e => rational e.2).sum + 250 = 510) ∧
    ∃ sums, (Yearly.payments .filteredTermsMultiSum).decode summed = .ok (.multiSums sums) ∧
      (sums.map fun e => rational ((e.2.get? "price_cents").getD 0)).sum + 250 = 510 := by
  intro counted summed
  obtain ⟨counts, hcounts, hcount⟩ := (decode_conserves (Yearly.payments .dateHistogramCount)
    counted).1 (Or.inr rfl) Yearly.answer rfl
  obtain ⟨sums, hsums, hsum⟩ := (decode_conserves (Yearly.payments .dateHistogramSumWithFilter)
    summed).2.1 (Or.inl rfl) Yearly.answer rfl
  obtain ⟨perField, hperField, hfields⟩ := (decode_conserves
    (Yearly.payments .filteredTermsMultiSum) summed).2.2.1 rfl Yearly.answer rfl
  have hfield := hfields "price_cents" (by decide)
  have hnamed : ∀ name ∈ ["sum", sumName "price_cents"],
      ((replaced Yearly.answer).map fun b => rational (sumValue b name)).sum = 250 ∧
        (Yearly.answer.map fun b => rational (sumValue b name)).sum = 510 := by
    decide +kernel
  rw [(hnamed _ (by decide)).1, (hnamed _ (by decide)).2] at hsum hfield
  exact ⟨rfl, rfl, ⟨counts, hcounts, hcount⟩, ⟨sums, hsums, hsum⟩, perField, hperField, hfield⟩

end AggregateSpec
end TableView
