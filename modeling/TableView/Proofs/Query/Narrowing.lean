import TableView.Proofs.Query.Effects
import TableView.Proofs.Query.Placement

/-! Searching for some terms and then for others is one search for all of them, and a search only
adds: one condition for each term that it keeps, behind the conditions that there are. -/
namespace TableView
open Index (Body Clause Group Placed)
open Session (bind_eq_ok bind_of_ok gather)

/-- Terms are read one after the other. Those on unknown columns and those that cannot be read drop
out, and each other one is kept as what it is read as. -/
inductive Keeping {α : Type} (registry : Registry) (read : Column → String → Session (Option α)) :
    List SearchTerm → List Call → List (Column × α) → List Call → Prop
  | nil {h : List Call} : Keeping registry read [] h [] h
  | unknown {name raw : String} {rest : List SearchTerm} {h h' : List Call}
    {kept : List (Column × α)} (hc : registry.lookup? name = none)
    (hrest : Keeping registry read rest h kept h') :
    Keeping registry read ((name, raw) :: rest) h kept h'
  | drop {name raw : String} {c : Column} {rest : List SearchTerm} {h g h' : List Call}
    {kept : List (Column × α)} (hc : registry.lookup? name = some c)
    (hread : read c raw h = (.ok none, g)) (hrest : Keeping registry read rest g kept h') :
    Keeping registry read ((name, raw) :: rest) h kept h'
  | keep {name raw : String} {c : Column} {a : α} {rest : List SearchTerm} {h g h' : List Call}
    {kept : List (Column × α)} (hc : registry.lookup? name = some c)
    (hread : read c raw h = (.ok (some a), g)) (hrest : Keeping registry read rest g kept h') :
    Keeping registry read ((name, raw) :: rest) h ((c, a) :: kept) h'

section Keeping
variable {α : Type} {registry : Registry} {read : Column → String → Session (Option α)}
  {terms rest : List SearchTerm} {name raw : String} {c : Column} {h h' : List Call}
  {kept : List (Column × α)}

theorem Registry.resolveTerms_unknown (hc : registry.lookup? name = none) :
    registry.resolveTerms ((name, raw) :: rest) = registry.resolveTerms rest :=
  List.filterMap_cons_none (by simp only [hc, Option.map_none])

theorem Registry.resolveTerms_known (hc : registry.lookup? name = some c) :
    registry.resolveTerms ((name, raw) :: rest) = (c, raw) :: registry.resolveTerms rest :=
  List.filterMap_cons_some (by simp only [hc, Option.map_some])

/-- What is gathered of the terms of a search is what the search keeps. -/
theorem gather_eq_ok_iff :
    gather read (registry.resolveTerms terms) h = (.ok kept, h') ↔
      Keeping registry read terms h kept h' := by
  constructor
  · intro hg
    induction terms generalizing h kept with
    | nil =>
      cases hg
      exact .nil
    | cons t rest ih =>
      obtain ⟨name, raw⟩ := t
      cases hc : registry.lookup? name with
      | none =>
        rw [Registry.resolveTerms_unknown hc] at hg
        exact .unknown hc (ih hg)
      | some c =>
        rw [Registry.resolveTerms_known hc, gather] at hg
        obtain ⟨o, g, hread, hg⟩ := bind_eq_ok.mp hg
        cases o with
        | none => exact .drop hc hread (ih hg)
        | some a =>
          obtain ⟨later, g', hlater, hg⟩ := (bind_eq_ok (x := gather read _)).mp hg
          cases hg
          exact .keep hc hread (ih hlater)
  · intro hk
    induction hk with
    | nil => rfl
    | unknown hc _ ih =>
      rw [Registry.resolveTerms_unknown hc]
      exact ih
    | drop hc hread _ ih =>
      rw [Registry.resolveTerms_known hc, gather]
      exact (bind_of_ok hread).trans ih
    | keep hc hread _ ih =>
      rw [Registry.resolveTerms_known hc, gather]
      exact (bind_of_ok hread).trans ((bind_of_ok ih).trans rfl)

end Keeping

namespace RelationalQuery
variable {q q' : RelationalQuery} {terms : List SearchTerm} {h h' : List Call}

theorem effect_search_append (q : RelationalQuery) (terms more : List SearchTerm) :
    q.effect (.search (terms ++ more)) = q.effect (.search terms) >>= fun first =>
      q.effect (.search more) >>= fun later => pure fun r => later (first r) := by
  simp only [effect, Registry.resolveTerms, List.filterMap_append, Session.gather_append,
    bind_assoc, pure_bind, List.foldl_append]

theorem search_append (q : RelationalQuery) (terms more : List SearchTerm) :
    (q.search terms >>= fun q => q.search more) = q.search (terms ++ more) := by
  show (TableQuery.write q (.search terms) >>= fun q => TableQuery.write q (.search more)) =
    TableQuery.write q (.search (terms ++ more))
  simp only [write_eq, effect_search_append, WriteCall.operation, WriteCall.stage, bind_assoc,
    pure_bind]
  cases hturn : q.stage.advance "search" .filtered with
  | error e => rfl
  | ok stage =>
    -- a searched query may be searched again
    obtain ⟨-, rfl⟩ := Stage.advance_eq_ok.mp hturn
    rfl

/-- A search that comes to its end changes the two conditions of the relation, and each by the
predicates of the terms that it keeps on columns that target it. -/
theorem search_keeps_terms (hq : q.search terms h = (.ok q', h')) :
    ∃ kept, Keeping q.registry q.predicate terms h kept h' ∧
      q' = { q with
        stage := .filtered
        relation := { q.relation with
          filters := q.relation.filters ++ addedTo .filter kept
          having := q.relation.having ++ addedTo .having kept } } := by
  obtain ⟨stage, kept, hturn, hkept, rfl⟩ := search_eq_ok.mp hq
  obtain ⟨-, rfl⟩ := Stage.advance_eq_ok.mp hturn
  exact ⟨kept, gather_eq_ok_iff.mp hkept, by rw [foldl_push_eq]⟩

end RelationalQuery

namespace IndexQuery
variable {i i' : IndexQuery} {b : Body} {terms : List SearchTerm} {h h' : List Call}

/-- A body holds all that another one does, and in each group the clauses added to it behind those
that were there. Nested documents of a path have a group from the first clause on them. -/
structure Extends (b' b : Body) (added : List (Column × Placed)) : Prop where
  clauses : ∀ group, b'.clauses group = b.clauses group ++ addedTo group added
  paths : ∀ path, b'.nested.contains path = true ↔
    b.nested.contains path = true ∨ addedTo (.nested path) added ≠ []
  rest : b'.unfiltered = b.unfiltered

theorem contains_pushTo (b : Body) (group : Group) (c : Clause) (path : String) :
    (b.pushTo group c).nested.contains path = true ↔
      b.nested.contains path = true ∨ group = .nested path := by
  cases group with
  | query | filter => simp [Body.pushTo, Body.pushQuery, Body.pushFilter]
  | nested other =>
    by_cases hp : other = path <;>
      simp [Body.pushTo, Body.pushNested, Fields.contains, Fields.get?_insert, hp]

theorem contains_foldl_push (added : List (Column × Placed)) (path : String) :
    (added.foldl push b).nested.contains path = true ↔
      b.nested.contains path = true ∨ addedTo (.nested path) added ≠ [] := by
  induction added generalizing b with
  | nil => simp [addedTo]
  | cons t added ih =>
    rw [List.foldl_cons, ih, push_eq_pushTo, contains_pushTo]
    by_cases hp : groupOf t.1 t.2 = .nested path <;> simp [addedTo, hp]

theorem extends_foldl_push (b : Body) (added : List (Column × Placed)) :
    Extends (added.foldl push b) b added where
  clauses _ := clauses_foldl_push _
  paths := contains_foldl_push added
  rest := unfiltered_foldl_push

theorem effect_search_append (i : IndexQuery) (terms more : List SearchTerm) :
    i.effect (.search (terms ++ more)) = i.effect (.search terms) >>= fun first =>
      i.effect (.search more) >>= fun later => pure fun b => later (first b) := by
  simp only [effect, Registry.resolveTerms, List.filterMap_append, Session.gather_append,
    bind_assoc, pure_bind, List.foldl_append]

theorem search_append (i : IndexQuery) (terms more : List SearchTerm) :
    (i.search terms >>= fun i => i.search more) = i.search (terms ++ more) := by
  show (TableQuery.write i (.search terms) >>= fun i => TableQuery.write i (.search more)) =
    TableQuery.write i (.search (terms ++ more))
  simp only [write_eq, effect_search_append, WriteCall.operation, WriteCall.stage, bind_assoc,
    pure_bind]
  cases hturn : i.stage.advance "search" .filtered with
  | error e => rfl
  | ok stage =>
    obtain ⟨-, rfl⟩ := Stage.advance_eq_ok.mp hturn
    rfl

theorem search_keeps_terms (hi : i.search terms h = (.ok i', h')) :
    ∃ kept, Keeping i.registry i.clause terms h kept h' ∧ Extends i'.body i.body kept ∧
      i' = { i with stage := .filtered, body := i'.body } := by
  obtain ⟨stage, kept, hturn, hkept, rfl⟩ := search_eq_ok.mp hi
  obtain ⟨-, rfl⟩ := Stage.advance_eq_ok.mp hturn
  exact ⟨kept, gather_eq_ok_iff.mp hkept, extends_foldl_push i.body kept, rfl⟩

end IndexQuery

/-- Two searches come to the same as one for the terms of both, by the same calls and with the same
error. A search that comes to its end leaves all that was written as it was, and puts one condition
for each term that it keeps behind the conditions of the clause that the column targets, or of the
group that the clause is placed in. -/
theorem search_composes_and_narrows :
    (∀ (q : RelationalQuery) (terms more : List SearchTerm),
      (q.search terms >>= fun q => q.search more) = q.search (terms ++ more)) ∧
    (∀ (i : IndexQuery) (terms more : List SearchTerm),
      (i.search terms >>= fun i => i.search more) = i.search (terms ++ more)) ∧
    (∀ (q : RelationalQuery) terms h q' h', q.search terms h = (.ok q', h') →
      ∃ kept, Keeping q.registry q.predicate terms h kept h' ∧
        q' = { q with
          stage := .filtered
          relation := { q.relation with
            filters := q.relation.filters ++ RelationalQuery.addedTo .filter kept
            having := q.relation.having ++ RelationalQuery.addedTo .having kept } }) ∧
    ∀ (i : IndexQuery) terms h i' h', i.search terms h = (.ok i', h') →
      ∃ kept, Keeping i.registry i.clause terms h kept h' ∧
        IndexQuery.Extends i'.body i.body kept ∧
        i' = { i with stage := .filtered, body := i'.body } :=
  ⟨RelationalQuery.search_append, IndexQuery.search_append,
    fun _ _ _ _ _ => RelationalQuery.search_keeps_terms,
    fun _ _ _ _ _ => IndexQuery.search_keeps_terms⟩

namespace Blog

/-- How often the posts of a group were read. -/
def views : Column where
  name := "views"
  backendField := "SUM(visits.views)"
  kind := .integer
  search := SearchOptions.onGroups {}

def tag : Column where
  name := "tag"
  backendField := "label"
  kind := .nested "tags"

def popular : Registry where
  columns := [title, views, tag, discussion]
  distinct := by decide

end Blog

theorem search_composes_and_narrows_posts :
    let q := RelationalQuery.start Blog.store Blog.popular Blog.posts
    let i := { IndexQuery.start Blog.index Blog.popular {} with reader := q.reader }
    let terms : List SearchTerm := [("title", "lean"), ("unknown", "x"), ("views", "1,000")]
    let more : List SearchTerm := [("tag", "logic"), ("comments", ""), ("comments", "a")]
    (∃ q' h' kept, (q.search terms >>= fun q => q.search more) [] = (.ok q', h') ∧
      q.search (terms ++ more) [] = (.ok q', h') ∧
      Keeping q.registry q.predicate (terms ++ more) [] kept h' ∧
      q'.relation.filters = Blog.posts.filters ++ RelationalQuery.addedTo .filter kept ∧
      q'.relation.having = RelationalQuery.addedTo .having kept ∧
      q'.relation.filters.length = 4 ∧ q'.relation.having.length = 1 ∧ h'.length = 2) ∧
    ∃ i' h' kept, (i.search terms >>= fun i => i.search more) [] = (.ok i', h') ∧
      i.search (terms ++ more) [] = (.ok i', h') ∧
      Keeping i.registry i.clause (terms ++ more) [] kept h' ∧
      IndexQuery.Extends i'.body i.body kept ∧ (i'.body.clauses (.nested "tags")).length = 1 ∧
      i'.body.query.length = 1 ∧ i'.body.filter.length = 2 := by
  intro q i terms more
  obtain ⟨hrelational, hindex, hrelation, hbody⟩ := search_composes_and_narrows
  refine ⟨?_, ?_⟩
  · obtain ⟨q', h', hq, hfilters, hhaving, hcalls⟩ : ∃ q' h',
        q.search (terms ++ more) [] = (.ok q', h') ∧ q'.relation.filters.length = 4 ∧
        q'.relation.having.length = 1 ∧ h'.length = 2 := ⟨_, _, rfl, rfl, rfl, rfl⟩
    obtain ⟨kept, hkept, he⟩ := hrelation q _ _ _ _ hq
    refine ⟨q', h', kept, by rw [hrelational, hq], hq, hkept, ?_, ?_, hfilters, hhaving, hcalls⟩
    · exact congrArg (·.relation.filters) he
    · exact congrArg (·.relation.having) he
  · obtain ⟨i', h', hi, hnested, hquery, hfilter⟩ : ∃ i' h',
        i.search (terms ++ more) [] = (.ok i', h') ∧
        (i'.body.clauses (.nested "tags")).length = 1 ∧ i'.body.query.length = 1 ∧
        i'.body.filter.length = 2 := ⟨_, _, rfl, rfl, rfl, rfl⟩
    obtain ⟨kept, hkept, hextends, -⟩ := hbody i _ _ _ _ hi
    exact ⟨i', h', kept, by rw [hindex, hi], hi, hkept, hextends, hnested, hquery, hfilter⟩

end TableView
