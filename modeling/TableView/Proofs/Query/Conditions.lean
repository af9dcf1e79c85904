import TableView.Proofs.Association.OwnerQuery
import TableView.Proofs.Query.Writing

/-! The conditions of a statement say together what each of them says by itself. -/
namespace TableView
open Sql
open Sql.Fragment (andAll? orAll?)

/-- Connecting two or more balanced conditions by `AND` or by `OR` gives a balanced text of the form
`(X) AND (Y)`, from which the conditions can be read off again. So the filters of a relation say
together what each of them says, and likewise the having-predicates; and of the related rows that an
owner's type restricts, the type test holds for all that any of the searched fields finds. -/
theorem conditions_uniquely_readable :
    (∀ fs : List Fragment, 2 ≤ fs.length → (∀ f ∈ fs, f.Whole) →
      (∃ g, andAll? fs = some g ∧ TakesApart "AND" fs g) ∧
      ∃ g, orAll? fs = some g ∧ TakesApart "OR" fs g) ∧
    (∀ r : Relation, (∀ f ∈ r.filters ++ r.having, Level f.sql) →
      r.body.sql = "FROM " ++ r.table ++ String.join (r.joins.map (" " ++ ·)) ++
        Relation.clauseText " WHERE" r.filters ++
        (if r.groupBy = [] then "" else " GROUP BY " ++ ", ".intercalate r.groupBy) ++
        Relation.clauseText " HAVING" r.having ∧
      ∀ v : Reader,
        v.text (Relation.conditionText r.filters) = .all (r.filters.map (v.text ·.sql)) ∧
        v.text (Relation.conditionText r.having) = .all (r.having.map (v.text ·.sql))) ∧
    ∀ (a : Association) (link : TypeLink) (needle : String) (fields : List String) (p : Predicate),
      a.kind = .hasMany → a.polymorphic = some link →
      Level a.relatedTable → Level link.typeColumn → (∀ field ∈ fields, Level field) →
      Predicate.anyOf? (fields.map (a.contains needle)) = some p →
      ∃ condition, (a.ownerQuery p).sql = a.selectOwners ++ " " ++ condition ∧
        ∀ v : Reader, v.text condition =
          (Truth.any (fields.map fun field =>
            v.text ((a.contains needle field).fragment {}).sql)).and
            (v.text ((a.typeTest link).fragment {}).sql) := by
  refine ⟨fun fs hcount hfs => ?_, fun r hr => ⟨r.body_sql, fun v => ?_⟩, ?_⟩
  · exact ⟨takesApart_reduce (.of_plain rfl) hcount hfs,
      takesApart_reduce (.of_plain rfl) hcount hfs⟩
  · have hbalanced : ∀ f ∈ r.filters ++ r.having, f.Balanced := fun f hf =>
      level_iff_balanced.mp (hr f hf)
    exact ⟨Relation.text_conditionText fun f hf => hbalanced f (List.mem_append_left _ hf),
      Relation.text_conditionText fun f hf => hbalanced f (List.mem_append_right _ hf)⟩
  · intro a link needle fields p hkind hlink htable hcolumn hfields hp
    obtain ⟨hwhole, hany⟩ := Association.anyOf?_contains htable hfields hp
    have htest : ((a.typeTest link).fragment {}).Whole := Association.typeTest_whole htable hcolumn
    have hboth : ((p.fragment {}).and ((a.typeTest link).fragment {})).Whole :=
      hwhole.connect (.of_plain rfl) htest
    have htyped := Association.typed_of_link (p := p) hkind hlink
    refine ⟨((p.fragment {}).and ((a.typeTest link).fragment {})).sql, ?_, fun v => ?_⟩
    · rw [Association.ownerQuery_sql (by rw [htyped]; exact hboth.ne_empty), htyped]
      rfl
    · rw [Reader.text_and hwhole.balanced htest.balanced, hany]

/-- Filters with an `OR` of their own and with parentheses in literals. -/
theorem conditions_uniquely_readable_posts :
    let fs : List Fragment := [⟨"open OR note = ')'", []⟩,
      ⟨"(tag IN (?, ?)) AND note <> ' OR ('", [.integer 1, .integer 2]⟩, ⟨"site = ?", [.integer 7]⟩]
    let selection : Relation := { Blog.posts with filters := fs }
    (2 ≤ fs.length ∧ ∀ f ∈ fs, f.Whole) ∧
    (∃ g, andAll? fs = some g ∧ TakesApart "AND" fs g ∧ g.params.length = 3) ∧
    (∀ v : Reader,
      v.text (Relation.conditionText selection.filters) = .all (fs.map (v.text ·.sql))) ∧
    ∃ p condition,
      Predicate.anyOf? (["body", "title"].map (Blog.remarks.contains "lean")) = some p ∧
      (Blog.remarks.ownerQuery p).sql = Blog.remarks.selectOwners ++ " " ++ condition ∧
      ∀ v : Reader, v.text condition =
        ((v.text "LOWER(comments.body) LIKE ? ESCAPE '!'").or
          (v.text "LOWER(comments.title) LIKE ? ESCAPE '!'")).and
          (v.text "comments.owner_type = ?") := by
  intro fs selection
  obtain ⟨hreadable, hrelation, hassociation⟩ := conditions_uniquely_readable
  have hwhole : ∀ f ∈ fs, f.Whole := by
    simp only [fs, List.forall_mem_cons, List.not_mem_nil, false_implies, implies_true, and_true]
    exact ⟨⟨by decide, by decide⟩, ⟨by decide, by decide⟩, by decide, by decide⟩
  refine ⟨⟨by decide, hwhole⟩, ?_, ?_, ?_⟩
  · obtain ⟨⟨g, hg, hapart⟩, -⟩ := hreadable fs (by decide) hwhole
    exact ⟨g, hg, hapart, by rw [hapart.params]; rfl⟩
  · intro v
    refine ((hrelation selection fun f hf => ?_).2 v).1
    exact (hwhole f (by simpa [selection, Blog.posts] using hf)).level
  · obtain ⟨condition, hsql, hreads⟩ := hassociation Blog.remarks ⟨"owner_type", "Post"⟩ "lean"
      ["body", "title"] _ rfl rfl (by decide) (by decide) (by decide) rfl
    refine ⟨_, condition, rfl, hsql, fun v => ?_⟩
    rw [hreads, List.map_cons, List.map_singleton, Truth.any_cons, Truth.any_cons]
    exact congrArg (Truth.and · _) (congrArg (Truth.or _) Truth.or_no)

end TableView
