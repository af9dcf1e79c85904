import Mathlib.Data.List.TakeDrop
import TableView.Proofs.Term.Agreement
import TableView.Proofs.Text.Signed

/-! Polymorphic keys: a type name and an id are read from a term as they are written in one, and
both backends then select the rows that hold them. -/
namespace TableView
open Text (Spells isBlank minInt64 maxInt64)

namespace Term
variable {cs before after : List Char} {raw t i t' i' : String} {e : TermError}

/-- A type name and an id with an underscore between them. -/
def key (t i : String) : String := t ++ "_" ++ i

end Term

/-- An id spells a number of 64 bits. -/
def NumberId (i : String) (n : Int) : Prop := Spells i.toList n ∧ minInt64 ≤ n ∧ n ≤ maxInt64

/-- The value that an id is stored as: a number if it spells one, else its text. -/
def StoredId (i : String) (v : Sql.Param) : Prop :=
  (∃ n, NumberId i n ∧ v = .integer n) ∨ (∀ n, ¬ NumberId i n) ∧ v = .text i

section
variable {t i t' i' raw searchField : String} {v : Sql.Param} {c : ColumnData} {r : Row}
  {F : Text.CaseFolding} {caps : Sql.Capabilities}

theorem NumberId.unique {m n : Int} (hm : NumberId i m) (hn : NumberId i n) : m = n :=
  Option.some.inj ((Text.int64?_eq_some.mpr hm).symm.trans (Text.int64?_eq_some.mpr hn))

/-- A row holds a type name and an id in the fields of a column. -/
structure Row.Holds (r : Row) (c : ColumnData) (t i : String) : Prop where
  id : StoredId i (r c.idField)
  typeName : r c.typeField = .text t

end

end TableView
