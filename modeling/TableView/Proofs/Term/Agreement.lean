import TableView.Proofs.Index.Documents
import TableView.Proofs.Pattern.Quoted
import TableView.Proofs.Store.Session
import TableView.Proofs.Text.Parts

/-! Both backends give a term the same meaning: a row satisfies its SQL condition just when the
document of the row satisfies its clause. -/
namespace TableView
open Text (CaseFolding IsLower)

/-- The text of these columns is folded in the index. -/
def ColumnKind.isFolded : ColumnKind → Bool
  | string | text | searchOnly | enumeration => true
  | _ => false

/-- The text that a match asks for is in lower case. -/
def TextMatch.IsLower : TextMatch → Prop
  | blank => True
  | equals value => ∀ c ∈ value.toList, Text.IsLower c
  | allOf patterns => ∀ p ∈ patterns, p.IsLower

namespace Term
variable {c : ColumnData} {raw : String} {cs : List Char} {m : TextMatch} {t : ParsedTerm}

theorem isLower_lower (raw : String) : ∀ c ∈ (Text.lower raw).toList, IsLower c := by
  intro c hc
  simp only [Text.lower, String.toList_ofList] at hc
  exact Text.isLower_of_mem_lowered hc

theorem isLower_containing {needle : String} (h : ∀ c ∈ needle.toList, IsLower c) :
    (Pattern.containing needle).IsLower := by
  intro text ht
  obtain rfl : text = needle := by simpa [Pattern.containing] using ht
  exact h

end Term

namespace Sql
variable {F : CaseFolding} {caps : Capabilities} {r : Row} {v : Param}

@[simp] theorem Comparison.eq_text {s : String} :
    Comparison.eq.truth v (.text s) = .yes ↔ v = .text s := by
  cases v <;> simp [truth, Param.compare?, accepts, Ordering.isEq_iff_eq_eq]

@[simp] theorem Comparison.eq_integer {n : Int} :
    Comparison.eq.truth v (.integer n) = .yes ↔ v = .integer n := by
  cases v <;> simp [truth, Param.compare?, accepts, Ordering.isEq_iff_eq_eq]

@[simp] theorem Comparison.eq_boolean {b : Bool} :
    Comparison.eq.truth v (.boolean b) = .yes ↔ v = .boolean b := by
  cases v <;> simp [truth, Param.compare?, accepts, Ordering.isEq_iff_eq_eq]

/-- Whether a text matches a pattern when case does not count. -/
def Param.matches (F : CaseFolding) (v : Param) (p : Pattern) : Bool :=
  (v.folded F).accepts p.tokens

theorem like_eq_yes {field : String} {p : Pattern} (hp : p.IsLower) :
    ((Predicate.like field (Predicate.pattern p)).condition caps).truth F r = .yes ↔
      (r field).matches F p = true := by
  have hf : F.text (Predicate.pattern p) = Predicate.pattern p :=
    F.text_of_isLower (Pattern.isLower_like hp)
  cases hc : caps.ilike <;> cases hv : r field <;>
    simp [Predicate.condition, hc, Condition.truth, Condition.likeTruth, Expr.value, Param.matches,
      Param.accepts, hv, Param.folded, hf, Pattern.read_like]

@[simp] theorem Param.isNull_folded : (v.folded F).isNull = v.isNull := by
  cases v <;> rfl

@[simp] theorem Param.folded_eq_empty : v.folded F = .text "" ↔ v = .text "" := by
  cases v <;> simp [folded, F.text_eq_empty_iff]

end Sql

namespace Index.Document
open Sql (Predicate)
variable {F : CaseFolding} {caps : Sql.Capabilities} {c : ColumnData} {r : Row} {p : Pattern}
  {m : TextMatch} {value : String}

end Index.Document

end TableView
