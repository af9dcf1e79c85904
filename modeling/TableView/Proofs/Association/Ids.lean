import Mathlib.Data.List.TakeWhile
import TableView.Association.Resolution
import TableView.Proofs.Text.LowerCase

/-! Lists of ids: what a relationship term lists, and the order of what a store returns. -/
namespace TableView

theorem Text.trimmed_eq_nil {cs : List Char} : trimmed cs = [] ↔ ∀ c ∈ cs, isBlank c := by
  simp only [trimmed, List.reverse_eq_nil_iff, List.dropWhile_eq_nil_iff, List.mem_reverse]
  constructor
  · intro h
    cases hkept : cs.dropWhile isBlank with
    | nil => exact List.dropWhile_eq_nil_iff.mp hkept
    | cons d rest =>
      -- what is kept does not start with a blank
      have hhead := List.head?_dropWhile_not isBlank cs
      rw [hkept] at hhead h
      simp [h d List.mem_cons_self] at hhead
  · intro h c hc
    exact h c ((List.dropWhile_sublist isBlank).mem hc)

/-- A term is no text to search for just when it is blank. -/
theorem Text.lower_trim_eq_empty {raw : String} :
    lower (trim raw) = "" ↔ ∀ c ∈ raw.toList, isBlank c := by
  rw [← CaseFolding.lowering_text, CaseFolding.text_eq_empty_iff, ← trimmed_eq_nil, trim,
    ← String.toList_eq_nil_iff, String.toList_ofList]

namespace Association
variable {ids : List Int} {m n : Int} {raw : String}

/-- One of the positive numbers that stand between the commas of a text. -/
def Listed (raw : String) (n : Int) : Prop :=
  0 < n ∧ ∃ token ∈ Text.parts (· = ',') raw.toList, Text.int64? (Text.trimmed token) = some n

theorem mem_insertId : m ∈ insertId n ids ↔ m = n ∨ m ∈ ids := by
  induction ids with
  | nil => simp [insertId]
  | cons k ids ih =>
    simp only [insertId]
    split
    · exact List.mem_cons
    · split
      case isTrue h => simp [h]
      case isFalse => simp [ih, or_left_comm]

theorem insertId_pairwise (h : ids.Pairwise (· < ·)) : (insertId n ids).Pairwise (· < ·) := by
  induction ids with
  | nil => simp [insertId]
  | cons k ids ih =>
    obtain ⟨hfirst, hrest⟩ := List.pairwise_cons.mp h
    simp only [insertId]
    split
    case isTrue hlt =>
      refine List.pairwise_cons.mpr ⟨fun m hm => ?_, h⟩
      rcases List.mem_cons.mp hm with rfl | hm
      · exact hlt
      · exact Int.lt_trans hlt (hfirst m hm)
    case isFalse hnlt =>
      split
      case isTrue => exact h
      case isFalse hne =>
        refine List.pairwise_cons.mpr ⟨fun m hm => ?_, ih hrest⟩
        rcases mem_insertId.mp hm with rfl | hm
        · omega
        · exact hfirst m hm

/-- Sorting takes one number after the other into those it has sorted. -/
theorem foldl_insertId {sorted : List Int} (h : sorted.Pairwise (· < ·)) :
    (ids.foldl (fun sorted n => insertId n sorted) sorted).Pairwise (· < ·) ∧
    ∀ m, m ∈ ids.foldl (fun sorted n => insertId n sorted) sorted ↔ m ∈ sorted ∨ m ∈ ids := by
  induction ids generalizing sorted with
  | nil => simpa using h
  | cons n ids ih =>
    obtain ⟨hsorted, hmem⟩ := ih (insertId_pairwise (n := n) h)
    refine ⟨hsorted, fun m => ?_⟩
    rw [List.foldl_cons, hmem, mem_insertId, List.mem_cons, or_comm (a := m = n), or_assoc]

theorem sortIds_pairwise (ids : List Int) : (sortIds ids).Pairwise (· < ·) :=
  (foldl_insertId .nil).1

theorem mem_sortIds : m ∈ sortIds ids ↔ m ∈ ids := by
  rw [sortIds, (foldl_insertId .nil).2 m]
  simp

theorem parseIds_pairwise (raw : String) : (parseIds raw).Pairwise (· < ·) := sortIds_pairwise _

theorem mem_parseIds : n ∈ parseIds raw ↔ Listed raw n := by
  simp only [parseIds, mem_sortIds, List.mem_filter, List.mem_filterMap, decide_eq_true_eq, Listed]
  exact and_comm

end Association
end TableView
