import TableView.Proofs.Sql.Reading

/-! The texts of a relation's statements, clause by clause. -/
namespace TableView.Sql

variable {v : Reader} {a b : Fragment} {fs : List Fragment}

/-- Both texts with a blank between. -/
theorem Fragment.push_sql (ha : a.sql ≠ "") (hb : b.sql ≠ "") :
    (a.push b).sql = a.sql ++ " " ++ b.sql := by
  simp [push, isEmpty, ha, hb]

namespace Relation

/-- The text of the condition that a clause with these predicates holds, empty for none. -/
def conditionText (predicates : List Fragment) : String :=
  ((Fragment.andAll? predicates).map (·.sql)).getD ""

/-- A clause says what all its predicates say; one without text says yes. -/
theorem text_conditionText (hfs : ∀ f ∈ fs, f.Balanced) :
    v.text (conditionText fs) = .all (fs.map (v.text ·.sql)) := by
  cases fs with
  | nil => rfl
  | cons f fs =>
    exact Reader.text_foldl_all (hfs f List.mem_cons_self) fun g hg =>
      hfs g (List.mem_cons_of_mem _ hg)

/-- A clause as it stands in a statement, nothing for no predicates. -/
def clauseText (keyword : String) (predicates : List Fragment) : String :=
  if predicates = [] then ""
  else keyword ++ (if conditionText predicates = "" then "" else " ") ++ conditionText predicates

theorem pushWhere_sql (f : Fragment) {keyword : String} (hkeyword : keyword ≠ "")
    (predicates : List Fragment) :
    (pushWhere f keyword predicates).sql = f.sql ++ clauseText keyword predicates := by
  cases predicates with
  | nil => simp [pushWhere, Fragment.andAll?, Fragment.reduce?, clauseText]
  | cons g fs =>
    have htext : conditionText (g :: fs) = (fs.foldl Fragment.and g).sql := rfl
    simp [pushWhere, Fragment.andAll?, Fragment.reduce?, Fragment.push, Fragment.pushText,
      Fragment.isEmpty, clauseText, htext, hkeyword, String.append_assoc]

theorem pushList_sql (f : Fragment) (keyword : String) (texts : List String) :
    (pushList f keyword texts).sql =
      f.sql ++ if texts = [] then "" else keyword ++ ", ".intercalate texts := by
  cases texts <;> simp [pushList, Fragment.pushText]

theorem pushNumber_sql (f : Fragment) (keyword : String) (n : Option Nat) :
    (pushNumber f keyword n).sql = f.sql ++ (n.map fun n => keyword ++ toString n).getD "" := by
  cases n <;> simp [pushNumber, Fragment.pushText]

/-- Where the two conditions stand in every statement of a relation. -/
theorem body_sql (r : Relation) : r.body.sql =
    "FROM " ++ r.table ++ String.join (r.joins.map (" " ++ ·)) ++ clauseText " WHERE" r.filters ++
      (if r.groupBy = [] then "" else " GROUP BY " ++ ", ".intercalate r.groupBy) ++
      clauseText " HAVING" r.having := by
  rw [body, pushWhere_sql _ (by decide), pushList_sql, pushWhere_sql _ (by decide)]

theorem body_ne_empty (r : Relation) : r.body.sql ≠ "" := by
  simp [body_sql]

/-- Order and page as they stand at the end of a selection. -/
def ending (r : Relation) : String :=
  (if r.orderBy = [] then "" else " ORDER BY " ++ ", ".intercalate r.orderBy) ++
    (r.limit.map fun n => " LIMIT " ++ toString n).getD "" ++
    (r.offset.map fun n => " OFFSET " ++ toString n).getD ""

theorem select_sql (r : Relation) :
    r.select.sql = "SELECT " ++ r.selectList ++ " " ++ r.body.sql ++ r.ending := by
  have hlist : ({ sql := "SELECT " ++ r.selectList } : Fragment).sql ≠ "" := by simp
  rw [select, pushNumber_sql, pushNumber_sql, pushList_sql,
    Fragment.push_sql hlist r.body_ne_empty]
  simp only [ending, String.append_assoc]

/-- The selection without order and page is the select list before what counting shares with it. -/
theorem unpaged_select_sql (r : Relation) :
    r.unpaged.select.sql = "SELECT " ++ r.selectList ++ " " ++ r.body.sql := by
  have hending : r.unpaged.ending = "" := rfl
  rw [select_sql, hending, String.append_empty]
  rfl

theorem groupSizes_sql (r : Relation) : r.groupSizes.sql = "SELECT COUNT(*) " ++ r.body.sql :=
  Fragment.push_sql (by decide) r.body_ne_empty

theorem count_of_plain {r : Relation} (hgroup : r.groupBy = [])
    (hprojection : r.projection = none) :
    r.count = ⟨"SELECT COUNT(*) " ++ r.body.sql, r.select.params⟩ := by
  have hplain : r.count = r.groupSizes := by simp [count, isGrouped, hgroup, hprojection]
  rw [hplain, select_params, ← groupSizes_params, ← groupSizes_sql]

theorem count_of_shaped {r : Relation} (hshape : r.groupBy ≠ [] ∨ r.projection ≠ none) :
    r.count = ⟨"SELECT COUNT(*) FROM (" ++ r.unpaged.select.sql ++ ") AS datatable_count",
      r.unpaged.select.params⟩ := by
  rw [count, if_pos]
  rcases hshape with hgroup | hprojection
  · simp [isGrouped, hgroup]
  · simp [Option.isSome_iff_ne_none.mpr hprojection]

end Relation
end TableView.Sql
