import TableView.Proofs.Query.CallOrder
import TableView.Proofs.Query.Execution
import TableView.Proofs.Store.Lockstep

/-! What the totals of a query may depend on: the terms searched for, and for the total without any
filter nothing that is asked. -/
namespace TableView
open Session
open Sql (Fragment Relation)
open TableQuery (writeAll)

/-- The terms that a call searches for. -/
def WriteCall.terms : WriteCall → List SearchTerm
  | .search terms => terms
  | _ => []

/-- The number of rows or groups of each relation stays as it is. -/
def RecordStore.Steady (s : RecordStore) : Prop := ∀ r h h', s.sized r h = s.sized r h'

namespace RelationalQuery
variable {store : RecordStore} {fresh q q₁ q₂ : RelationalQuery}
  {calls calls₁ calls₂ : List WriteCall}
  {call : WriteCall} {h h' h₁ h₂ h₁' h₂' : List Call} {filtered all : Relation}

theorem unpaged_push (r : Relation) (t : Column × Fragment) :
    (push r t).unpaged = push r.unpaged t := by
  unfold push
  split <;> rfl

theorem unpaged_foldl_push (r : Relation) (added : List (Column × Fragment)) :
    (added.foldl push r).unpaged = added.foldl push r.unpaged :=
  (List.foldl_hom Relation.unpaged fun r t => (unpaged_push r t).symm).symm

/-- But for its order and page, a call changes a relation by what the terms that it searches for
add. -/
theorem unpaged_effect {change : Relation → Relation} (hc : q.effect call h = (.ok change, h')) :
    ∃ added, gather q.predicate (q.registry.resolveTerms call.terms) h = (.ok added, h') ∧
      ∀ r, (change r).unpaged = added.foldl push r.unpaged := by
  cases call with
  | search terms =>
    obtain ⟨added, g, hadded, hc⟩ := bind_eq_ok.mp hc
    cases hc
    exact ⟨added, hadded, fun r => unpaged_foldl_push r added⟩
  | order spec =>
    obtain ⟨hkeys, rfl⟩ := Prod.mk.inj hc
    cases hk : q.orderKeys spec with
    | error e =>
      rw [hk] at hkeys
      cases hkeys
    | ok keys =>
      rw [hk] at hkeys
      cases hkeys
      exact ⟨[], rfl, fun r => rfl⟩
  | paginate w =>
    cases hc
    exact ⟨[], rfl, fun r => rfl⟩

/-- But for its order and page, the relation that is written is the one it was begun with and what
all terms searched for add. -/
theorem unpaged_writeAll (hidle : fresh.stage = .idle) (hq : writeAll fresh calls h = (.ok q, h')) :
    ∃ added, gather fresh.predicate (fresh.registry.resolveTerms (calls.flatMap (·.terms))) h =
        (.ok added, h') ∧
      q.relation.unpaged = added.foldl push fresh.relation.unpaged := by
  refine writeAll_induction (motive := fun calls r g => ∃ added, gather fresh.predicate
      (fresh.registry.resolveTerms (calls.flatMap (·.terms))) h = (.ok added, g) ∧
        r.unpaged = added.foldl push fresh.relation.unpaged) hidle ⟨[], rfl, rfl⟩ ?_ hq
  rintro calls call r g change g' ⟨earlier, hearlier, hrelation⟩ hc
  obtain ⟨added, hadded, hchange⟩ := unpaged_effect hc
  refine ⟨earlier ++ added, ?_, ?_⟩
  · rw [List.flatMap_append, List.flatMap_singleton, Registry.resolveTerms, List.filterMap_append]
    exact gather_append ▸ (bind_of_ok hearlier).trans (bind_of_ok hadded)
  · rw [hchange, hrelation, List.foldl_append]

/-- A term adds the same predicate wherever lookups answer alike, also by a strategy. -/
theorem predicate_inStep (halike : q.reader.Alike q.reader h₁ h₂) (c : Column) (raw : String) :
    InStep Eq (q.predicate c raw) (q.predicate c raw) h₁ h₂ := by
  cases hstrategy : c.searchStrategy with
  | none =>
    rw [predicate_eq hstrategy]
    refine .bind (TermReader.read_inStep halike c.toColumnData raw) fun _ m _ _ _ hm => ?_
    exact .pure (by rw [hm])
  | some strategy =>
    simp only [predicate, hstrategy]
    cases strategy c.toColumnData raw <;> exact .ofExcept_self _

/-- Searches for the same terms, with lookups that answer alike, lead to one selection but for its
order and page. -/
theorem unpaged_eq (hidle : fresh.stage = .idle)
    (halike : fresh.store.Alike fresh.store.toAssociationSource h₁ h₂)
    (hterms : calls₁.flatMap (·.terms) = calls₂.flatMap (·.terms))
    (hq₁ : writeAll fresh calls₁ h₁ = (.ok q₁, h₁'))
    (hq₂ : writeAll fresh calls₂ h₂ = (.ok q₂, h₂')) :
    q₁.relation.unpaged = q₂.relation.unpaged := by
  obtain ⟨added₁, hadded₁, hrelation₁⟩ := unpaged_writeAll hidle hq₁
  obtain ⟨added₂, hadded₂, hrelation₂⟩ := unpaged_writeAll hidle hq₂
  have hreader : fresh.reader.Alike fresh.reader h₁ h₂ := ⟨rfl, _, _, _, rfl, rfl, halike⟩
  have hgather := InStep.gather (R := fun _ _ => Eq) fun t
      (_ : t ∈ fresh.registry.resolveTerms (calls₁.flatMap (·.terms))) new =>
    (predicate_inStep (hreader.later new) t.1 t.2).option
  obtain ⟨added, new, -, hadded, hsame⟩ := hgather.of_ok hadded₁
  rw [hterms, hadded₂] at hadded
  cases hadded
  rw [hrelation₁, hrelation₂, hsame.eq]

/-- Executing the query goes by one selection, and by sizing `filtered` where that succeeds; `all`
is sized when the total without any filter is asked for. -/
structure TotalsBy (q : RelationalQuery) (store : RecordStore) (filtered all : Relation) :
    Prop where
  halts : ∀ {g e}, store.select g q.relation.select = .error e →
    q.execute g = (.error e, g ++ [.select q.relation.select])
  asks : ∀ {g rows}, store.select g q.relation.select = .ok rows →
    let asked := g ++ [.select q.relation.select]
    (q.execute g).2 = asked ++ store.sizing filtered asked
  total : ∀ {g e g'}, q.execute g = (.ok e, g') →
    store.sized filtered (g ++ [.select q.relation.select]) = .ok e.totalEntries
  unfiltered : ∀ {g e g'}, q.execute g = (.ok e, g') → ∀ k,
    (e.unfilteredTotal k).2 = k ++ store.sizing all k ∧
    (e.unfilteredTotal k).1.map (·.1) = store.sized all k

theorem totalsBy (q : RelationalQuery) :
    q.TotalsBy q.store q.relation.unpaged q.base.unpaged where
  halts := by
    intro g e hselect
    rw [execute_apply, hselect]
  asks := by
    intro g rows hselect
    rw [execute_apply, hselect]
  total := by
    intro g e g' he
    obtain ⟨rows, n, -, hsized, -, rfl⟩ := execute_iff.mp he
    exact hsized
  unfiltered := by
    intro g e g' he k
    obtain ⟨hunknown, hcount⟩ := execute_countAll he
    have hasks := e.unfilteredTotal_asks hunknown k
    rwa [hcount] at hasks

/-- Whenever both queries are executed, their totals are the same. -/
def SameTotal (q₁ q₂ : RelationalQuery) : Prop :=
  ∀ g₁ g₂ e₁ e₂ g₁' g₂', q₁.execute g₁ = (.ok e₁, g₁') → q₂.execute g₂ = (.ok e₂, g₂') →
    e₁.totalEntries = e₂.totalEntries

/-- Whenever both are asked for the total without any filter, they answer the same. -/
def SameUnfilteredTotal (q₁ q₂ : RelationalQuery) : Prop :=
  ∀ g₁ g₂ e₁ e₂ g₁' g₂', q₁.execute g₁ = (.ok e₁, g₁') → q₂.execute g₂ = (.ok e₂, g₂') →
    ∀ k₁ k₂, (e₁.unfilteredTotal k₁).1.map (·.1) = (e₂.unfilteredTotal k₂).1.map (·.1)

theorem TotalsBy.sameTotal {all₁ all₂ : Relation} (hsteady : store.Steady)
    (ht₁ : q₁.TotalsBy store filtered all₁) (ht₂ : q₂.TotalsBy store filtered all₂) :
    q₁.SameTotal q₂ := by
  intro g₁ g₂ e₁ e₂ g₁' g₂' he₁ he₂
  have hsized := ht₁.total he₁
  rw [hsteady _ _ (g₂ ++ [.select q₂.relation.select]), ht₂.total he₂] at hsized
  exact (Except.ok.inj hsized).symm

theorem TotalsBy.sameUnfilteredTotal {filtered₁ filtered₂ : Relation} (hsteady : store.Steady)
    (ht₁ : q₁.TotalsBy store filtered₁ all) (ht₂ : q₂.TotalsBy store filtered₂ all) :
    q₁.SameUnfilteredTotal q₂ := by
  intro g₁ g₂ e₁ e₂ g₁' g₂' he₁ he₂ k₁ k₂
  rw [(ht₁.unfiltered he₁ k₁).2, (ht₂.unfiltered he₂ k₂).2, hsteady]

theorem writeAll_totalsBy {registry : Registry} {base : Relation}
    (hq : writeAll (start store registry base) calls h = (.ok q, h')) :
    q.TotalsBy store q.relation.unpaged base.unpaged := by
  obtain ⟨hscope, -⟩ := (staged_start store registry base).run hq
  obtain rfl : q.store = store := hscope.store
  obtain rfl : q.base = base := hscope.base
  exact q.totalsBy

end RelationalQuery

/-- The relation that a total is taken of is the same after the same searches, whatever order and
page there are, and that of the total without any filter is the same after any calls. An index query
asks for its total without any filter by one body, however it was written. -/
theorem totals_of_same_searches :
    (∀ store registry base calls h q h',
      writeAll (RelationalQuery.start store registry base) calls h = (.ok q, h') →
        q.TotalsBy store q.relation.unpaged base.unpaged) ∧
    (∀ store registry base calls₁ calls₂ h₁ h₂ q₁ q₂ h₁' h₂',
      let fresh := RelationalQuery.start store registry base
      writeAll fresh calls₁ h₁ = (.ok q₁, h₁') → writeAll fresh calls₂ h₂ = (.ok q₂, h₂') →
        (store.Steady → q₁.SameUnfilteredTotal q₂) ∧
        (calls₁.flatMap (·.terms) = calls₂.flatMap (·.terms) →
          store.Alike store.toAssociationSource h₁ h₂ →
            q₁.relation.unpaged = q₂.relation.unpaged ∧ (store.Steady → q₁.SameTotal q₂))) ∧
    ∀ index registry settings reader calls h i h',
      let fresh := { IndexQuery.start index registry settings with reader }
      fresh.performAll calls h = (.ok i, h') → ∀ g e g', i.execute g = (.ok e, g') → ∀ k,
        (e.unfilteredTotal k).2 = k ++ [.search Index.Body.countAll] ∧
        (e.unfilteredTotal k).1.map (·.1) =
          (index.search k Index.Body.countAll).bind IndexQuery.hitTotal := by
  refine ⟨?relations, ?runs, ?body⟩
  case relations => exact fun _ _ _ _ _ _ _ => RelationalQuery.writeAll_totalsBy
  case runs =>
    intro store registry base calls₁ calls₂ h₁ h₂ q₁ q₂ h₁' h₂' fresh hq₁ hq₂
    have ht₁ := RelationalQuery.writeAll_totalsBy hq₁
    have ht₂ := RelationalQuery.writeAll_totalsBy hq₂
    refine ⟨fun hsteady => ht₁.sameUnfilteredTotal hsteady ht₂, fun hterms halike => ?_⟩
    have hrelation : q₁.relation.unpaged = q₂.relation.unpaged :=
      RelationalQuery.unpaged_eq rfl halike hterms hq₁ hq₂
    exact ⟨hrelation, fun hsteady => (hrelation ▸ ht₁).sameTotal hsteady ht₂⟩
  case body =>
    intro index registry settings reader calls h i h' fresh hi g e g' he k
    obtain ⟨hscope, -⟩ := (IndexQuery.staged_start index registry settings reader).run hi
    obtain ⟨hunknown, hcount⟩ := IndexQuery.execute_countAll he
    have hasks := e.unfilteredTotal_asks hunknown k
    rwa [hcount, show i.index = index from hscope.index] at hasks

theorem totals_of_same_searches_posts :
    let fresh := RelationalQuery.start Blog.store Blog.registry Blog.posts
    let found : WriteCall := .search [("title", "lean"), ("comments", "a")]
    let calls : List WriteCall := [found, .order (some { column := "title" }), .paginate .first]
    let onIndex := IndexQuery.start Blog.found Blog.registry {}
    (∃ paged whole all h₁ h₂ h₃, writeAll fresh calls [] = (.ok paged, h₁) ∧
      writeAll fresh [found] [] = (.ok whole, h₂) ∧ writeAll fresh [] [] = (.ok all, h₃) ∧
      paged.relation.limit = some 25 ∧ whole.relation.limit = none ∧
      paged.TotalsBy Blog.store whole.relation.unpaged Blog.posts.unpaged ∧
      paged.SameTotal whole ∧ paged.SameUnfilteredTotal all) ∧
    ∃ i h' e g', onIndex.performAll [.filter .none, .write found] [] = (.ok i, h') ∧
      i.execute h' = (.ok e, g') ∧ (e.unfilteredTotal g').1.map (·.1) = .ok 2 := by
  intro fresh found calls onIndex
  have hsteady : Blog.store.Steady := fun _ _ _ => rfl
  have halike : Blog.store.Alike Blog.store.toAssociationSource [] [] :=
    ⟨rfl, fun _ _ => rfl, fun _ _ => rfl⟩
  obtain ⟨paged, h₁, hpaged, hlimit⟩ : ∃ q h', writeAll fresh calls [] = (.ok q, h') ∧
      q.relation.limit = some 25 := ⟨_, _, rfl, rfl⟩
  obtain ⟨whole, h₂, hwhole, hnone⟩ : ∃ q h', writeAll fresh [found] [] = (.ok q, h') ∧
      q.relation.limit = none := ⟨_, _, rfl, rfl⟩
  obtain ⟨all, h₃, hall⟩ : ∃ q h', writeAll fresh [] [] = (.ok q, h') := ⟨_, _, rfl⟩
  obtain ⟨hrelations, hruns, hbody⟩ := totals_of_same_searches
  obtain ⟨hsame, htotal⟩ := (hruns _ _ _ _ _ _ _ _ _ _ _ hpaged hwhole).2 rfl halike
  have hunfiltered := (hruns _ _ _ _ _ _ _ _ _ _ _ hpaged hall).1 hsteady
  refine ⟨⟨paged, whole, all, h₁, h₂, h₃, hpaged, hwhole, hall, hlimit, hnone, ?_, htotal hsteady,
    hunfiltered⟩, ?_⟩
  · rw [← hsame]
    exact hrelations _ _ _ _ _ _ _ hpaged
  · obtain ⟨i, h', e, g', hi, he⟩ : ∃ i h' e g',
        onIndex.performAll [.filter .none, .write found] [] = (.ok i, h') ∧
        i.execute h' = (.ok e, g') := ⟨_, _, _, _, rfl, rfl⟩
    exact ⟨i, h', e, g', hi, he,
      (hbody Blog.found Blog.registry {} onIndex.reader _ _ _ _ hi _ _ _ he g').2⟩

end TableView
