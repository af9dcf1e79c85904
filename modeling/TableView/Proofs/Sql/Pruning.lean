import Mathlib.Data.List.Flatten
import Mathlib.Data.List.Induction
import TableView.Proofs.Sql.Clauses

/-! Predicates without text in a relation: they give way to others, and alone they leave the keyword
of their clause behind. -/
namespace TableView.Sql.Relation
variable {r : Relation} {f g : Fragment} {fs : List Fragment}

/-- The predicates that have a text. -/
def written (fs : List Fragment) : List Fragment := fs.filter (!·.isEmpty)

def pruned (r : Relation) : Relation :=
  { r with filters := written r.filters, having := written r.having }

/-- There are predicates, and none of them has a text. -/
def Dangling (fs : List Fragment) : Prop := fs ≠ [] ∧ ∀ f ∈ fs, f.isEmpty

instance (fs : List Fragment) : Decidable (Dangling fs) := inferInstanceAs (Decidable (_ ∧ _))

@[simp] theorem written_append (fs gs : List Fragment) :
    written (fs ++ gs) = written fs ++ written gs := List.filter_append fs gs

theorem written_eq_nil : written fs = [] ↔ ∀ f ∈ fs, f.isEmpty := by simp [written]

/-- Each further predicate is connected to the condition of those before it. -/
theorem conditionText_concat (fs : List Fragment) (g : Fragment) :
    conditionText (fs ++ [g]) = (Fragment.connect "AND" ⟨conditionText fs, []⟩ g).sql := by
  cases fs with
  | nil => rfl
  | cons f fs =>
    have hfold : conditionText (f :: fs ++ [g]) = ((fs.foldl Fragment.and f).and g).sql := by
      simp [conditionText, Fragment.andAll?, Fragment.reduce?]
    exact hfold

theorem connect_sql_eq_empty {word : String} :
    (Fragment.connect word f g).sql = "" ↔ f.isEmpty ∧ g.isEmpty := by
  unfold Fragment.connect
  split
  case isTrue hf => rw [and_iff_right hf, Fragment.isEmpty, String.isEmpty_iff]
  case isFalse hf =>
    split
    case isTrue hg => rw [and_iff_left hg, Fragment.isEmpty, String.isEmpty_iff]
    case isFalse hg => simp [hf]

theorem conditionText_eq_empty : conditionText fs = "" ↔ ∀ f ∈ fs, f.isEmpty := by
  induction fs using List.reverseRecOn with
  | nil => simp [conditionText, Fragment.andAll?, Fragment.reduce?]
  | append_singleton fs g ih =>
    have hbefore : Fragment.isEmpty ⟨conditionText fs, []⟩ ↔ ∀ f ∈ fs, f.isEmpty := by
      rw [← ih, Fragment.isEmpty, String.isEmpty_iff]
    rw [conditionText_concat, connect_sql_eq_empty, hbefore, List.forall_mem_append,
      List.forall_mem_singleton]

/-- A clause has the same condition without the predicates that have no text. -/
theorem conditionText_written (fs : List Fragment) :
    conditionText (written fs) = conditionText fs := by
  induction fs using List.reverseRecOn with
  | nil => rfl
  | append_singleton fs g ih =>
    rw [written_append]
    by_cases hg : g.isEmpty
    · have hgone : written [g] = [] := by simp [written, hg]
      have hsql : g.sql = "" := by simpa [Fragment.isEmpty] using hg
      rw [hgone, List.append_nil, ih, conditionText_concat, Fragment.connect, if_pos hg, hsql]
      split
      case isTrue hnone => simpa [Fragment.isEmpty] using hnone
      case isFalse => rfl
    · have hkept : written [g] = [g] := by simp [written, hg]
      rw [hkept, conditionText_concat, conditionText_concat, ih]

/-- What the predicates without text leave of their clause. -/
def remnant (keyword : String) (fs : List Fragment) : String :=
  if Dangling fs then keyword else ""

theorem clauseText_of_dangling (keyword : String) (h : Dangling fs) :
    clauseText keyword fs = keyword := by
  simp [clauseText, h.1, conditionText_eq_empty.mpr h.2]

theorem clauseText_of_written (keyword : String) (h : ∃ f ∈ fs, ¬f.isEmpty) :
    conditionText (written fs) ≠ "" ∧
      clauseText keyword fs = keyword ++ " " ++ conditionText (written fs) := by
  have hcondition : conditionText fs ≠ "" := by
    intro hnone
    obtain ⟨f, hf, hwritten⟩ := h
    exact hwritten (conditionText_eq_empty.mp hnone f hf)
  obtain ⟨f, hf, -⟩ := h
  rw [conditionText_written]
  exact ⟨hcondition, by simp [clauseText, hcondition, List.ne_nil_of_mem hf]⟩

theorem clauseText_split (keyword : String) (fs : List Fragment) :
    clauseText keyword fs = remnant keyword fs ++ clauseText keyword (written fs) := by
  by_cases hnone : ∀ f ∈ fs, f.isEmpty
  · rw [written_eq_nil.mpr hnone]
    by_cases hfs : fs = []
    · simp [remnant, Dangling, hfs]
    · have hdangling : Dangling fs := ⟨hfs, hnone⟩
      rw [clauseText_of_dangling keyword hdangling, remnant, if_pos hdangling]
      exact String.append_empty.symm
  · have hkept : written fs ≠ [] := fun h => hnone (written_eq_nil.mp h)
    have hfs : fs ≠ [] := by rintro rfl; exact hkept rfl
    simp [remnant, Dangling, hnone, clauseText, hfs, hkept, conditionText_written]

theorem remnant_eq_empty {keyword : String} (hkeyword : keyword ≠ "") :
    remnant keyword fs = "" ↔ ¬Dangling fs := by
  unfold remnant
  split <;> simp_all

/-- What the statements of a relation and of the pruned one have around what differs. -/
theorem statement_around_body (r : Relation) {make : Relation → Fragment}
    (hmake : make ∈ [select, count, groupSizes]) : ∃ before after,
      (make r).sql = before ++ r.body.sql ++ after ∧
      (make r.pruned).sql = before ++ r.pruned.body.sql ++ after := by
  simp only [List.mem_cons, List.not_mem_nil, or_false] at hmake
  obtain rfl | rfl | rfl := hmake
  · exact ⟨_, _, select_sql r, select_sql r.pruned⟩
  · by_cases hplain : r.groupBy = [] ∧ r.projection = none
    · obtain ⟨hgroup, hprojection⟩ := hplain
      refine ⟨"SELECT COUNT(*) ", "", ?_, ?_⟩
      · rw [count_of_plain hgroup hprojection, String.append_empty]
      · rw [count_of_plain (r := r.pruned) hgroup hprojection, String.append_empty]
    · have hshape := not_and_or.mp hplain
      refine ⟨"SELECT COUNT(*) FROM (" ++ ("SELECT " ++ r.selectList ++ " "),
        ") AS datatable_count", ?_, ?_⟩
      · rw [count_of_shaped hshape, unpaged_select_sql]
        simp only [String.append_assoc]
      · rw [count_of_shaped (r := r.pruned) hshape, unpaged_select_sql]
        simp only [String.append_assoc]
        rfl
  · refine ⟨"SELECT COUNT(*) ", "", ?_, ?_⟩
    · rw [groupSizes_sql, String.append_empty]
    · rw [groupSizes_sql, String.append_empty]

theorem body_sql_eq_pruned :
    r.body.sql = r.pruned.body.sql ↔ ¬Dangling r.filters ∧ ¬Dangling r.having := by
  obtain ⟨before, between, hbody, hpruned⟩ : ∃ before between,
      r.body.sql = before ++ clauseText " WHERE" r.filters ++ between ++
        clauseText " HAVING" r.having ∧
      r.pruned.body.sql = before ++ clauseText " WHERE" (written r.filters) ++ between ++
        clauseText " HAVING" (written r.having) := ⟨_, _, r.body_sql, r.pruned.body_sql⟩
  rw [hbody, hpruned, clauseText_split, clauseText_split " HAVING"]
  constructor
  · intro hsame
    have hlength := congrArg String.length hsame
    simp only [String.length_append] at hlength
    have hwhere : (remnant " WHERE" r.filters).length = 0 := by omega
    have hhaving : (remnant " HAVING" r.having).length = 0 := by omega
    exact ⟨(remnant_eq_empty (by decide)).mp (String.length_eq_zero_iff.mp hwhere),
      (remnant_eq_empty (by decide)).mp (String.length_eq_zero_iff.mp hhaving)⟩
  · rintro ⟨hfilters, hhaving⟩
    rw [(remnant_eq_empty (by decide)).mpr hfilters, (remnant_eq_empty (by decide)).mpr hhaving,
      String.empty_append, String.empty_append]

/-- Leaving out predicates leaves out their values. -/
theorem params_written :
    (written fs).flatMap (·.params) = fs.flatMap (·.params) ↔
      ∀ f ∈ fs, f.isEmpty → f.params = [] := by
  induction fs with
  | nil => simp [written]
  | cons f fs ih =>
    rw [List.forall_mem_cons, ← ih]
    by_cases hf : f.isEmpty
    · have hgone : written (f :: fs) = written fs := by simp [written, hf]
      have hfewer : ((written fs).flatMap (·.params)).length ≤ (fs.flatMap (·.params)).length :=
        (List.filter_sublist.flatMap _).length_le
      rw [hgone, List.flatMap_cons]
      constructor
      · intro hsame
        have hlength := congrArg List.length hsame
        rw [List.length_append] at hlength
        have hnone : f.params = [] := List.length_eq_zero_iff.mp (by omega)
        exact ⟨fun _ => hnone, by rwa [hnone] at hsame⟩
      · rintro ⟨hnone, hsame⟩
        rw [hnone hf, hsame, List.nil_append]
    · have hkept : written (f :: fs) = f :: written fs := by simp [written, hf]
      simp [hkept, hf]

/-- Of the predicates of a clause those without text do not show in a statement, unless the
clause has no others: then its keyword stays, with nothing behind it. Their values are bound all
the same. -/
theorem empty_predicates_drop_out (r : Relation) :
    (∀ make ∈ [Relation.select, Relation.count, Relation.groupSizes],
      ((make r).sql = (make r.pruned).sql ↔ ¬Dangling r.filters ∧ ¬Dangling r.having) ∧
      ((make r).params = (make r.pruned).params ↔
        ∀ f ∈ r.filters ++ r.having, f.isEmpty → f.params = [])) ∧
    r.body.sql = "FROM " ++ r.table ++ String.join (r.joins.map (" " ++ ·)) ++
      clauseText " WHERE" r.filters ++
      (if r.groupBy = [] then "" else " GROUP BY " ++ ", ".intercalate r.groupBy) ++
      clauseText " HAVING" r.having ∧
    ∀ keyword, ∀ fs ∈ [r.filters, r.having],
      (fs = [] → clauseText keyword fs = "") ∧
      (Dangling fs → clauseText keyword fs = keyword) ∧
      ((∃ f ∈ fs, ¬f.isEmpty) → conditionText (written fs) ≠ "" ∧
        clauseText keyword fs = keyword ++ " " ++ conditionText (written fs)) := by
  refine ⟨fun make hmake => ⟨?_, ?_⟩, r.body_sql, fun keyword fs _ => ⟨?_, ?_, ?_⟩⟩
  · obtain ⟨before, after, hsql, hpruned⟩ := Relation.statement_around_body r hmake
    rw [hsql, hpruned, ← Relation.body_sql_eq_pruned]
    exact (String.append_left_inj after).trans (String.append_right_inj before)
  · have hvalues : ∀ q, (make q).params = q.values := by
      simp only [List.mem_cons, List.not_mem_nil, or_false] at hmake
      obtain rfl | rfl | rfl := hmake <;> simp
    rw [hvalues, hvalues, ← params_written]
    simp [Relation.values, eq_comm, Relation.pruned]
  · rintro rfl
    rfl
  · exact Relation.clauseText_of_dangling keyword
  · exact Relation.clauseText_of_written keyword

/-- A filter without text gives way to the one beside it, and the clause of having-predicates
without text is a keyword. -/
theorem empty_predicates_drop_out_spent :
    let orders : Relation := { table := "orders", filters := [{}, ⟨"paid = ?", [.integer 1]⟩, {}],
                               groupBy := ["buyer"], having := [{}, {}] }
    orders.select.sql =
      "SELECT orders.* FROM orders WHERE paid = ? GROUP BY buyer HAVING" ∧
    orders.select.sql ≠ orders.pruned.select.sql ∧
    orders.select.params = orders.pruned.select.params ∧
    clauseText " WHERE" orders.filters = " WHERE" ++ " " ++ "paid = ?" := by
  intro orders
  obtain ⟨hstatements, -, hclauses⟩ := empty_predicates_drop_out orders
  obtain ⟨hsql, hparams⟩ := hstatements select (by simp)
  have hdangling : Dangling orders.having := by decide
  refine ⟨by decide, fun hsame => (hsql.mp hsame).2 hdangling, hparams.mpr (by decide), ?_⟩
  exact ((hclauses " WHERE" orders.filters (by simp)).2.2 (by decide)).2

end TableView.Sql.Relation
