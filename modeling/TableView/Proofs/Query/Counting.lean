import TableView.Proofs.Query.Narrowing
import TableView.Proofs.Query.Totals
import TableView.Proofs.Sql.Clauses

/-! What the statement that counts a relation counts: the rows that the relation selects, but for a
having-predicate where nothing is grouped or projected. -/
namespace TableView
open Sql (Fragment Param Relation)
open TableQuery (writeAll)

namespace Sql.Relation
variable {r : Relation}

/-- Either rows are counted where they are taken from, and nothing but filters acts on them there,
or the rows of the selection are counted. -/
inductive CountsRows (r : Relation) : Prop
  | direct (hgroup : r.groupBy = []) (hhaving : r.having = []) (hprojection : r.projection = none)
      (hcount : r.count = ⟨"SELECT COUNT(*) " ++ r.body.sql, r.select.params⟩)
  | derived (hcount : r.count =
      ⟨"SELECT COUNT(*) FROM (" ++ r.unpaged.select.sql ++ ") AS datatable_count",
        r.unpaged.select.params⟩)

/-- Order and page do not show in the count. -/
theorem count_unpaged (r : Relation) (orderBy : List String) (limit offset : Option Nat) :
    { r with orderBy, limit, offset }.count = r.count := rfl

/-- The two ways to count do not have the same text, as one holds the other and more. -/
theorem countsRows_iff : r.CountsRows ↔ r.having = [] ∨ r.groupBy ≠ [] ∨ r.projection ≠ none := by
  constructor
  · intro hcounts
    by_contra! hbare
    obtain ⟨hhaving, hgroup, hprojection⟩ := hbare
    cases hcounts with
    | direct _ hnone _ _ => exact hhaving hnone
    | derived hcount =>
      rw [count_of_plain hgroup hprojection] at hcount
      have hlength := congrArg (fun f => f.sql.length) hcount
      simp only [unpaged_select_sql, String.length_append] at hlength
      have hlonger : "SELECT COUNT(*) ".length < "SELECT COUNT(*) FROM (".length := by decide
      omega
  · intro hshape
    by_cases hplain : r.groupBy = [] ∧ r.projection = none
    · obtain ⟨hgroup, hprojection⟩ := hplain
      have hhaving : r.having = [] := by simpa [hgroup, hprojection] using hshape
      exact .direct hgroup hhaving hprojection (count_of_plain hgroup hprojection)
    · exact .derived (count_of_shaped (not_and_or.mp hplain))

end Sql.Relation

namespace RelationalQuery
variable {fresh q : RelationalQuery} {calls : List WriteCall} {h h' : List Call}

/-- Calls leave groups and select list alone, so that only terms on having-columns can spoil a
count. -/
theorem countsRows_writeAll (hidle : fresh.stage = .idle)
    (hq : writeAll fresh calls h = (.ok q, h')) :
    ∃ added, Session.gather fresh.predicate
        (fresh.registry.resolveTerms (calls.flatMap (·.terms))) h = (.ok added, h') ∧
      (q.relation.CountsRows ↔ fresh.relation.CountsRows ∧
        (fresh.relation.groupBy ≠ [] ∨ fresh.relation.projection ≠ none ∨
          ∀ t ∈ added, t.1.search.targetClause = .filter)) := by
  obtain ⟨added, hadded, hrelation⟩ := unpaged_writeAll hidle hq
  rw [foldl_push_eq] at hrelation
  have hgroup : q.relation.groupBy = fresh.relation.groupBy :=
    (congrArg Relation.groupBy hrelation :)
  have hprojection : q.relation.projection = fresh.relation.projection :=
    (congrArg Relation.projection hrelation :)
  have hhaving : q.relation.having = fresh.relation.having ++ addedTo .having added :=
    (congrArg Relation.having hrelation :)
  have hnone : addedTo .having added = [] ↔ ∀ t ∈ added, t.1.search.targetClause = .filter := by
    rw [addedTo, List.map_eq_nil_iff, List.filter_eq_nil_iff]
    refine forall₂_congr fun t _ => ?_
    cases t.1.search.targetClause <;> decide
  refine ⟨added, hadded, ?_⟩
  rw [Relation.countsRows_iff, Relation.countsRows_iff, hgroup, hprojection, hhaving,
    List.append_eq_nil_iff, hnone]
  tauto

end RelationalQuery

/-- Counting binds the values of the selection and does not go by its order and page. What is
counted are the selected rows, unless there are having-predicates and neither groups nor a select
list of its own: then these stand behind the one row that counts. So a query counts what it shows
until it is searched on a having-column while it neither groups nor projects. -/
theorem count_of_selection (r : Relation) :
    r.count.params = r.select.params ∧
    (∀ orderBy limit offset, { r with orderBy, limit, offset }.count = r.count) ∧
    (r.groupBy = [] → r.projection = none →
      r.count = ⟨"SELECT COUNT(*) " ++ r.body.sql, r.select.params⟩) ∧
    (r.CountsRows ↔ r.having = [] ∨ r.groupBy ≠ [] ∨ r.projection ≠ none) ∧
    ∀ store registry calls h q h',
      let fresh := RelationalQuery.start store registry r
      writeAll fresh calls h = (.ok q, h') → ∃ added,
        Session.gather fresh.predicate (registry.resolveTerms (calls.flatMap (·.terms))) h =
          (.ok added, h') ∧
        (q.relation.CountsRows ↔ r.CountsRows ∧ (r.groupBy ≠ [] ∨ r.projection ≠ none ∨
          ∀ t ∈ added, t.1.search.targetClause = .filter)) := by
  refine ⟨?_, Relation.count_unpaged r, Relation.count_of_plain, Relation.countsRows_iff, ?_⟩
  · rw [Relation.count_params, Relation.select_params]
  · intro store registry calls h q h' fresh hq
    exact RelationalQuery.countsRows_writeAll rfl hq

theorem count_of_selection_posts :
    let found : WriteCall := .search [("title", "lean"), ("views", "1,000")]
    let projected : Relation := { Blog.posts with projection := some "posts.id, SUM(visits.views)" }
    (∃ q h', writeAll (RelationalQuery.start Blog.store Blog.popular Blog.posts) [found] [] =
        (.ok q, h') ∧ Blog.posts.CountsRows ∧ ¬ q.relation.CountsRows) ∧
    ∃ q h', writeAll (RelationalQuery.start Blog.store Blog.popular projected) [found] [] =
        (.ok q, h') ∧ q.relation.having.length = 1 ∧ q.relation.CountsRows := by
  intro found projected
  refine ⟨?_, ?_⟩
  · obtain ⟨q, h', hq, hhaving, hgroup, hprojection⟩ : ∃ q h',
        writeAll (RelationalQuery.start Blog.store Blog.popular Blog.posts) [found] [] =
          (.ok q, h') ∧ q.relation.having ≠ [] ∧ q.relation.groupBy = [] ∧
        q.relation.projection = none := ⟨_, _, rfl, nofun, rfl, rfl⟩
    obtain ⟨-, -, -, hposts, -⟩ := count_of_selection Blog.posts
    obtain ⟨-, -, -, hwritten, -⟩ := count_of_selection q.relation
    refine ⟨q, h', hq, hposts.mpr (Or.inl rfl), ?_⟩
    simp [hwritten, hhaving, hgroup, hprojection]
  · obtain ⟨q, h', hq, hhaving⟩ : ∃ q h',
        writeAll (RelationalQuery.start Blog.store Blog.popular projected) [found] [] =
          (.ok q, h') ∧ q.relation.having.length = 1 := ⟨_, _, rfl, rfl⟩
    obtain ⟨-, -, -, hbase, hrun⟩ := count_of_selection projected
    obtain ⟨added, hadded, hcounts⟩ := hrun Blog.store Blog.popular _ _ _ _ hq
    exact ⟨q, h', hq, hhaving, hcounts.mpr ⟨hbase.mpr (Or.inl rfl), Or.inr (Or.inl (by decide))⟩⟩

end TableView
