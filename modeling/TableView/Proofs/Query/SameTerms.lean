import TableView.Proofs.Query.Placement
import TableView.Proofs.Store.Lockstep

/-! Both kinds of query keep the same terms of a search, look the same relationships up for them,
and fail alike. -/
namespace TableView
open Index (Placed)
open Session
open Sql (Fragment)

variable {q : RelationalQuery} {i : IndexQuery} {h₁ h₂ : List Call}

/-- A predicate and a clause that both put one meaning of a term on its column. -/
def SameMeaning (q : RelationalQuery) (i : IndexQuery) (c : Column) (raw : String) (f : Fragment)
    (p : Placed) : Prop :=
  ∃ m, f = (RelationalQuery.condition q.base.table c.toColumnData m).fragment q.store.capabilities ∧
    p = i.condition c.toColumnData raw m

/-- One term is kept on both sides, with one meaning, or on neither. -/
theorem predicate_clause_inStep {c : Column} (hplain : c.searchStrategy = none)
    (halike : q.reader.Alike i.reader h₁ h₂) (raw : String) :
    InStep (Option.Rel (SameMeaning q i c raw)) (q.predicate c raw) (i.clause c raw) h₁ h₂ := by
  rw [RelationalQuery.predicate_eq hplain, IndexQuery.clause_eq hplain]
  refine .bind (TermReader.read_inStep halike c.toColumnData raw) fun _ m _ _ _ hm => .pure ?_
  subst hm
  cases m with
  | none => exact .none
  | some m => exact .some ⟨m, rfl, rfl⟩

/-- The queries were searched by the same of some terms. For each of these the one has one more
predicate, in the clause that the column targets, and the other one more clause, in its group. -/
def SearchedAlike (q : RelationalQuery) (i : IndexQuery) (terms : List SearchTerm)
    (h₁ h₂ : List Call) (q' : RelationalQuery) (i' : IndexQuery) : Prop :=
  ∃ predicates clauses,
    KeepSame (SameMeaning q i) q.predicate i.clause (q.registry.resolveTerms terms) h₁ h₂
      predicates clauses ∧
    (∀ target, q'.relation.conditions target =
      q.relation.conditions target ++ RelationalQuery.addedTo target predicates) ∧
    ∀ group, i'.body.clauses group = i.body.clauses group ++ IndexQuery.addedTo group clauses

/-- Without strategies, and with lookups that answer alike, both kinds of query make the same
lookups for a search, and either fail with the same error or keep the same terms. -/
theorem search_keeps_same_terms (hregistry : i.registry = q.registry) (hstage : i.stage = q.stage)
    (hplain : ∀ c ∈ q.registry.columns, c.searchStrategy = none)
    (halike : q.reader.Alike i.reader h₁ h₂) (terms : List SearchTerm) :
    InStep (SearchedAlike q i terms h₁ h₂) (q.search terms) (i.search terms) h₁ h₂ := by
  unfold RelationalQuery.search IndexQuery.search
  rw [hregistry, hstage]
  refine .bind (.ofExcept_self _) fun new stage _ hq hi he => ?_
  subst he
  -- the stage is checked without a call
  obtain rfl : new = [] := by simpa using congrArg Prod.snd hq
  simp only [List.append_nil]
  refine .bind (.gather (R := SameMeaning q i) fun t ht new => ?_) fun _ ps cs _ _ hk => .pure ?_
  · exact predicate_clause_inStep (hplain t.1 (Registry.mem_of_resolveTerms ht)) (halike.later new)
      t.2
  · exact ⟨ps, cs, hk, fun _ => RelationalQuery.conditions_foldl_push _,
      fun _ => IndexQuery.clauses_foldl_push _⟩

theorem search_keeps_same_terms_posts :
    let q := RelationalQuery.start Blog.store Blog.registry Blog.posts
    let i := { IndexQuery.start Blog.index Blog.registry {} with reader := q.reader }
    let terms : List SearchTerm :=
      [("title", "lean"), ("unknown", "x"), ("fee", "79228162514264337593543950336"),
        ("comments", "a")]
    i.registry = q.registry ∧ i.stage = q.stage ∧
    (∀ c ∈ q.registry.columns, c.searchStrategy = none) ∧ q.reader.Alike i.reader [] [] ∧
    InStep (SearchedAlike q i terms [] []) (q.search terms) (i.search terms) [] [] ∧
    (q.search terms []).1.toOption.map (·.relation.filters.length) = some 3 ∧
    (i.search terms []).1.toOption.map
      (fun i' => (i'.body.query.length, i'.body.filter.length)) = some (1, 1) := by
  intro q i terms
  have halike : q.reader.Alike i.reader [] [] :=
    ⟨rfl, _, _, _, rfl, rfl, rfl, fun _ _ => rfl, fun _ _ => rfl⟩
  exact ⟨rfl, rfl, Blog.registry_plain, halike,
    search_keeps_same_terms rfl rfl Blog.registry_plain halike terms, rfl, rfl⟩

end TableView
