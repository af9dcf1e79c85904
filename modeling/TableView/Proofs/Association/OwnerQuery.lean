import TableView.Proofs.Association.Resolution
import TableView.Proofs.Sql.Clauses
import TableView.Proofs.Sql.Grouping

/-! The query for the owners of related rows: where its condition stands and how the condition is
put together. -/
namespace TableView
open Sql

namespace Sql.Predicate
variable {p q : Predicate} {ps : List Predicate} {caps : Capabilities}

theorem fragment_foldl_or : (ps.foldl or p).fragment caps =
    (ps.map (fragment caps)).foldl Fragment.or (p.fragment caps) := by
  induction ps generalizing p with
  | nil => rfl
  | cons q ps ih => exact ih

end Sql.Predicate

/-- A table and one of its columns. -/
theorem Sql.Level.dot {table column : String} (ht : Level table) (hc : Level column) :
    Balanced (table ++ "." ++ column) :=
  ((level_iff_balanced.mp ht).append (.of_plain rfl)).append (level_iff_balanced.mp hc)

namespace Association
variable {a : Association} {p : Predicate} {link : TypeLink} {needle : String}
  {fields : List String}

/-- The comparison of the owner's type, where related rows carry one. -/
def typeTest (a : Association) (link : TypeLink) : Predicate :=
  .compare (.field (a.relatedTable ++ "." ++ link.typeColumn)) .eq (.text link.typeName)

theorem typed_of_link (hkind : a.kind = .hasMany) (hlink : a.polymorphic = some link) :
    a.typed p = .and p (a.typeTest link) := by
  simp only [typed, hkind, hlink, typeTest]

theorem typed_of_no_link (h : ∀ link, a.kind = .hasMany → a.polymorphic ≠ some link) :
    a.typed p = p := by
  unfold typed
  split
  · exact absurd ‹_› (h _ ‹_›)
  · rfl

theorem typed_cases (a : Association) (p : Predicate) :
    (∃ link, a.kind = .hasMany ∧ a.polymorphic = some link ∧ a.typed p = .and p (a.typeTest link)) ∨
    (∀ link, a.kind = .hasMany → a.polymorphic ≠ some link) ∧ a.typed p = p := by
  by_cases h : ∃ link, a.kind = .hasMany ∧ a.polymorphic = some link
  · obtain ⟨link, hkind, hlink⟩ := h
    exact Or.inl ⟨link, hkind, hlink, typed_of_link hkind hlink⟩
  · have hnone : ∀ link, a.kind = .hasMany → a.polymorphic ≠ some link := fun link hkind hlink =>
      h ⟨link, hkind, hlink⟩
    exact Or.inr ⟨hnone, typed_of_no_link hnone⟩

/-- The selection of owners' ids up to its condition. -/
theorem selectOwners_where (a : Association) : ∃ head, a.selectOwners = head ++ " WHERE" := by
  unfold selectOwners
  split
  all_goals exact ⟨_, rfl⟩

theorem ownerQuery_sql (hp : ((a.typed p).fragment {}).sql ≠ "") :
    (a.ownerQuery p).sql = a.selectOwners ++ " " ++ ((a.typed p).fragment {}).sql := by
  obtain ⟨head, hhead⟩ := a.selectOwners_where
  exact Fragment.push_sql (a := { sql := a.selectOwners }) (by simp [hhead]) hp

theorem ownerQuery_params (a : Association) (p : Predicate) :
    (a.ownerQuery p).params = ((a.typed p).fragment {}).params := rfl

theorem contains_whole (needle : String) (htable : Level a.relatedTable) {field : String}
    (hfield : Level field) : ((a.contains needle field).fragment {}).Whole where
  ne_empty := Predicate.fragment_ne_empty (by simp [contains]) (by simp [contains])
  level := level_iff_balanced.mpr <| Predicate.fragment_balanced _ _ <| by
    simpa [contains, Predicate.fields] using htable.dot hfield

theorem typeTest_whole (htable : Level a.relatedTable) (hlink : Level link.typeColumn) :
    ((a.typeTest link).fragment {}).Whole where
  ne_empty := Predicate.fragment_ne_empty (by simp [typeTest]) (by simp [typeTest])
  level := level_iff_balanced.mpr <| Predicate.fragment_balanced _ _ <| by
    simpa [typeTest, Predicate.fields] using htable.dot hlink

/-- The search for a needle in several fields, as a text. -/
theorem anyOf?_contains (htable : Level a.relatedTable) (hfields : ∀ field ∈ fields, Level field)
    (hp : Predicate.anyOf? (fields.map (a.contains needle)) = some p) :
    (p.fragment {}).Whole ∧ ∀ v : Reader, v.text (p.fragment {}).sql =
      .any (fields.map fun field => v.text ((a.contains needle field).fragment {}).sql) := by
  obtain _ | ⟨field, others⟩ := fields
  · cases hp
  obtain rfl := Option.some.inj hp
  have hfirst := a.contains_whole needle htable (hfields field List.mem_cons_self)
  have hothers : ∀ g ∈ (others.map (a.contains needle)).map (Predicate.fragment {}), g.Whole := by
    intro g hg
    obtain ⟨q, hq, rfl⟩ := List.mem_map.mp hg
    obtain ⟨other, hother, rfl⟩ := List.mem_map.mp hq
    exact contains_whole needle htable (hfields other (List.mem_cons_of_mem _ hother))
  rw [Predicate.fragment_foldl_or]
  refine ⟨hfirst.foldl (.of_plain rfl) hothers, fun v => ?_⟩
  rw [Reader.text_foldl_any hfirst hothers, List.map_cons, List.map_cons, List.map_map,
    List.map_map]
  rfl

end Association

namespace Blog

/-- Comments on posts and on pictures, each with the type of its owner. -/
def remarks : Association where
  name := "remarks"
  kind := .hasMany
  relatedTable := "comments"
  foreignKey := "owner_id"
  polymorphic := some ⟨"owner_type", "Post"⟩

end Blog
end TableView
