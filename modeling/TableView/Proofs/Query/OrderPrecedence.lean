import Mathlib.Data.List.Forall2
import TableView.Proofs.Query.CallOrder
import TableView.Proofs.Query.Placement

/-! Which of several orders a query follows. On an index query the last one takes the place of those
before it; on a relational query it goes ahead of them, and all of them ahead of the base's own. -/
namespace TableView
open TableQuery (writeAll)

/-- The orders that a call asks for. -/
def WriteCall.orders : WriteCall → List (Option OrderSpec)
  | .order spec => [spec]
  | _ => []

def IndexCall.orders : IndexCall → List (Option OrderSpec)
  | .write call => call.orders
  | _ => []

namespace Registry
variable {r : Registry} {spec : Option OrderSpec} {s : OrderSpec}

/-- An order, if it resolves to a column. -/
def resolved? (r : Registry) (spec : Option OrderSpec) : Option OrderSpec :=
  match r.resolveOrder spec with
  | .ok (some _) => spec
  | _ => none

/-- The orders that resolve to a column; the others count as none. -/
def resolvedOrders (r : Registry) (specs : List (Option OrderSpec)) : List OrderSpec :=
  specs.filterMap r.resolved?

theorem resolved?_eq_some (hs : r.resolved? spec = some s) :
    spec = some s ∧ ∃ c d, c ∈ r.columns ∧ r.resolveOrder (some s) = .ok (some (c, d)) := by
  unfold resolved? at hs
  split at hs
  · rename_i target hresolve
    obtain ⟨c, d⟩ := target
    subst hs
    exact ⟨rfl, c, d, mem_of_resolveOrder hresolve, hresolve⟩
  · cases hs

theorem resolveOrder_of_resolved?_eq_none {target : Option (Column × SortDirection)}
    (hs : r.resolved? spec = none) (hresolve : r.resolveOrder spec = .ok target) :
    target = none := by
  cases target with
  | none => rfl
  | some target =>
    obtain rfl : spec = none := by simpa only [resolved?, hresolve] using hs
    cases hresolve

theorem resolved?_of_mem {specs : List (Option OrderSpec)} (hs : s ∈ r.resolvedOrders specs) :
    r.resolved? (some s) = some s := by
  obtain ⟨spec, -, hspec⟩ := List.mem_filterMap.mp hs
  obtain ⟨rfl, -⟩ := resolved?_eq_some hspec
  exact hspec

theorem resolvedOrders_append (specs more : List (Option OrderSpec)) :
    r.resolvedOrders (specs ++ more) = r.resolvedOrders specs ++ r.resolvedOrders more :=
  List.filterMap_append

end Registry

namespace RelationalQuery
open Sql (OrderTerm Relation)
variable {fresh q : RelationalQuery} {spec : Option OrderSpec} {s : OrderSpec}
  {call : WriteCall} {calls : List WriteCall} {h h' : List Call} {keys : List String}
  {earlier : List (List String)} {asked : List OrderSpec}

/-- The keys of one order after the other. -/
def KeysOf (q : RelationalQuery) : List OrderSpec → List (List String) → Prop :=
  List.Forall₂ fun s keys => q.orderKeys (some s) = .ok keys

theorem orderKeys_of_unresolved (hs : q.registry.resolved? spec = none)
    (hkeys : q.orderKeys spec = .ok keys) : keys = [] := by
  obtain ⟨target, hresolve, hkeys⟩ := ok_of_bind hkeys
  obtain rfl := Registry.resolveOrder_of_resolved?_eq_none hs hresolve
  exact (Except.ok.inj hkeys).symm

/-- Without a strategy every column sorts by some key. -/
theorem orderKeys_ne_nil (hplain : ∀ c ∈ q.registry.columns, c.orderStrategy = none)
    (hs : q.registry.resolved? spec = some s) (hkeys : q.orderKeys (some s) = .ok keys) :
    keys ≠ [] := by
  obtain ⟨-, c, d, hc, hresolve⟩ := Registry.resolved?_eq_some hs
  have hterms : q.orderKeys (some s) = q.orderTerms c d := by
    simp only [orderKeys, hresolve]
    rfl
  rw [hterms, orderTerms, hplain c hc] at hkeys
  obtain rfl := Except.ok.inj hkeys
  have hfield : ∀ field, OrderTerm.ofField q.store.capabilities.nullOrdering
      (c.nullOrdering.nullsFirst d) d field ≠ [] := by
    intro field
    unfold OrderTerm.ofField
    split <;> simp
  unfold OrderTerm.ofColumn ColumnData.sortKeys
  split <;> simp [hfield]

/-- A call puts the keys of the order that it asks for ahead of those that there are. -/
theorem effect_orderBy {change : Relation → Relation} (hc : q.effect call h = (.ok change, h')) :
    ∃ keys, q.KeysOf (q.registry.resolvedOrders call.orders) keys ∧
      ∀ r, (change r).orderBy = keys.reverse.flatten ++ r.orderBy := by
  cases call with
  | search terms =>
    obtain ⟨added, g, -, hc⟩ := Session.bind_eq_ok.mp hc
    cases hc
    refine ⟨[], .nil, fun r => ?_⟩
    show (added.foldl push r).orderBy = r.orderBy
    rw [foldl_push_eq]
  | paginate w =>
    cases hc
    exact ⟨[], .nil, fun r => rfl⟩
  | order spec =>
    obtain ⟨keys, hkeys, rfl⟩ := ok_of_map (congrArg Prod.fst hc)
    simp only [WriteCall.orders, Registry.resolvedOrders, List.filterMap_cons, List.filterMap_nil]
    cases hs : q.registry.resolved? spec with
    | none =>
      obtain rfl := orderKeys_of_unresolved hs hkeys
      exact ⟨[], .nil, fun r => rfl⟩
    | some s =>
      obtain ⟨rfl, -⟩ := Registry.resolved?_eq_some hs
      exact ⟨[keys], .cons hkeys .nil, fun r => by simp⟩

/-- The keys of later orders come before those of earlier ones, and all of them before the
base's. -/
theorem orderBy_writeAll (hidle : fresh.stage = .idle)
    (hq : writeAll fresh calls h = (.ok q, h')) :
    ∃ keys, fresh.KeysOf (fresh.registry.resolvedOrders (calls.flatMap (·.orders))) keys ∧
      q.relation.orderBy = keys.reverse.flatten ++ fresh.relation.orderBy := by
  refine writeAll_induction (motive := fun calls r _ => ∃ keys,
      fresh.KeysOf (fresh.registry.resolvedOrders (calls.flatMap (·.orders))) keys ∧
        r.orderBy = keys.reverse.flatten ++ fresh.relation.orderBy) hidle ⟨[], .nil, rfl⟩ ?_ hq
  rintro calls call r g change g' ⟨earlier, hearlier, horder⟩ hc
  obtain ⟨keys, hkeys, hchange⟩ := effect_orderBy hc
  refine ⟨earlier ++ keys, ?_, ?_⟩
  · rw [List.flatMap_append, List.flatMap_singleton, Registry.resolvedOrders_append]
    exact List.rel_append hearlier hkeys
  · rw [hchange, horder, List.reverse_append, List.flatten_append, List.append_assoc]

theorem order_of_idle (hidle : fresh.stage = .idle) (hkeys : fresh.orderKeys spec = .ok keys) :
    fresh.order spec = .ok { fresh with
      stage := .ordered
      relation := { fresh.relation with orderBy := keys ++ fresh.relation.orderBy } } := by
  rw [order_eq, hidle, Stage.advance_idle, hkeys]
  rfl

theorem KeysOf.all_nil_iff (hplain : ∀ c ∈ q.registry.columns, c.orderStrategy = none)
    (hasked : ∀ s ∈ asked, q.registry.resolved? (some s) = some s) (hall : q.KeysOf asked earlier) :
    (∀ keys ∈ earlier, keys = []) ↔ asked = [] := by
  cases hall with
  | nil => simp
  | cons hkeys _ => simp [orderKeys_ne_nil hplain (hasked _ List.mem_cons_self) hkeys]

/-- The keys of the last order, and those of the orders before it. -/
theorem KeysOf.last {all : List (List String)} (hall : fresh.KeysOf asked all) :
    ∃ keys earlier, fresh.orderKeys asked.getLast? = .ok keys ∧
      fresh.KeysOf asked.dropLast earlier ∧
      all.reverse.flatten = keys ++ earlier.reverse.flatten := by
  cases asked using List.reverseRecOn with
  | nil =>
    cases hall
    exact ⟨[], [], rfl, .nil, rfl⟩
  | append_singleton before s =>
    rw [KeysOf, ← List.forall₂_reverse_iff, List.reverse_append] at hall
    obtain ⟨keys, earlier, hkeys, hearlier, hreverse⟩ := List.forall₂_cons_left_iff.mp hall
    refine ⟨keys, earlier.reverse, ?_, ?_, ?_⟩
    · rwa [List.getLast?_concat]
    · rw [List.dropLast_concat, KeysOf, ← List.forall₂_reverse_iff, List.reverse_reverse]
      exact hearlier
    · rw [hreverse, List.reverse_reverse, List.flatten_cons]

end RelationalQuery

namespace IndexQuery
open Index (Body)
variable {fresh q q' : IndexQuery} {spec : Option OrderSpec} {s : OrderSpec} {call : IndexCall}
  {calls : List IndexCall} {h h' : List Call} {keys : Option (List Json)}

theorem orderKeys_of_unresolved (hs : q.registry.resolved? spec = none)
    (hkeys : q.orderKeys spec = .ok keys) : keys = none := by
  obtain ⟨target, hresolve, hkeys⟩ := ok_of_bind hkeys
  obtain rfl := Registry.resolveOrder_of_resolved?_eq_none hs hresolve
  exact (Except.ok.inj hkeys).symm

theorem orderKeys_congr (hr : q.registry = q'.registry) : q.orderKeys = q'.orderKeys := by
  funext spec
  simp only [orderKeys, hr]

theorem orderKeys_of_resolved (hs : q.registry.resolved? spec = some s)
    (hkeys : q.orderKeys (some s) = .ok keys) : ∃ sort, keys = some sort := by
  obtain ⟨-, c, d, -, hresolve⟩ := Registry.resolved?_eq_some hs
  have hsort : q.orderKeys (some s) = (sortClauses c d).map some := by
    simp only [orderKeys, hresolve]
    rfl
  rw [hsort] at hkeys
  obtain ⟨sort, -, rfl⟩ := ok_of_map hkeys
  exact ⟨sort, rfl⟩

/-- What a call does to the body leaves the sort keys alone, unless it asks for an order that
resolves to a column. -/
theorem effect_sort {call : WriteCall} {change : Body → Body}
    (hc : q.effect call h = (.ok change, h')) :
    ∃ keys, q.orderKeys (q.registry.resolvedOrders call.orders).getLast? = .ok keys ∧
      ∀ b, (change b).sort = keys.getD b.sort := by
  cases call with
  | search terms =>
    obtain ⟨added, g, -, hc⟩ := Session.bind_eq_ok.mp hc
    cases hc
    refine ⟨none, rfl, fun b => ?_⟩
    show (added.foldl push b).unfiltered.sort = b.unfiltered.sort
    rw [unfiltered_foldl_push]
  | paginate w =>
    cases hc
    exact ⟨none, rfl, fun b => rfl⟩
  | order spec =>
    obtain ⟨keys, hkeys, rfl⟩ := ok_of_map (congrArg Prod.fst hc)
    simp only [WriteCall.orders, Registry.resolvedOrders, List.filterMap_cons, List.filterMap_nil]
    cases hs : q.registry.resolved? spec with
    | none =>
      obtain rfl := orderKeys_of_unresolved hs hkeys
      exact ⟨none, rfl, fun b => rfl⟩
    | some s =>
      obtain ⟨rfl, -⟩ := Registry.resolved?_eq_some hs
      exact ⟨keys, hkeys, fun b => rfl⟩

theorem sort_release (aggregates : Fields AggregateSpec) (replaced : Option AggregateSpec)
    (b : Body) : (release aggregates replaced b).sort = b.sort := by
  unfold release
  split
  · rfl
  · split <;> rfl

theorem perform_sort (hq : perform q call h = (.ok q', h')) :
    ∃ keys, q.orderKeys (q.registry.resolvedOrders call.orders).getLast? = .ok keys ∧
      q'.body.sort = keys.getD q.body.sort := by
  cases call with
  | write call =>
    obtain ⟨stage, change, -, hc, rfl⟩ := write_eq_ok.mp hq
    obtain ⟨keys, hkeys, hsort⟩ := effect_sort hc
    exact ⟨keys, hkeys, hsort q.body⟩
  | filter c | query c =>
    obtain ⟨-, -, hq⟩ := ok_of_bind (congrArg Prod.fst hq)
    cases hq
    exact ⟨none, rfl, rfl⟩
  | aggregate name spec =>
    obtain ⟨body, ⟨-, rfl⟩ | ⟨a, -, -, rfl⟩, rfl⟩ := aggregate_eq_ok (congrArg Prod.fst hq)
    · exact ⟨none, rfl, sort_release _ _ _⟩
    · exact ⟨none, rfl, sort_release _ _ _⟩

/-- After any calls a body is sorted as by the last order that resolves to a column. -/
theorem sort_performAll (hidle : fresh.stage = .idle) (hnone : fresh.body.aggregations = [])
    (hq : performAll fresh calls h = (.ok q, h')) :
    ∃ keys, fresh.orderKeys
        (fresh.registry.resolvedOrders (calls.flatMap (·.orders))).getLast? = .ok keys ∧
      q.body.sort = keys.getD fresh.body.sort := by
  induction calls using List.reverseRecOn generalizing q h' with
  | nil =>
    cases hq
    exact ⟨none, rfl, rfl⟩
  | append_singleton calls call ih =>
    obtain ⟨q₁, g, hcalls, hcall⟩ := Session.foldlM_snoc_eq_ok.mp hq
    obtain ⟨earlier, hearlier, hsort⟩ := ih hcalls
    obtain ⟨hscope, -⟩ := (staged hidle hnone).run hcalls
    obtain ⟨keys, hkeys, hlast⟩ := perform_sort hcall
    rw [orderKeys_congr hscope.registry, hscope.registry] at hkeys
    rw [List.flatMap_append, List.flatMap_singleton, Registry.resolvedOrders_append,
      List.getLast?_append]
    cases hs : (fresh.registry.resolvedOrders call.orders).getLast? with
    | none =>
      rw [hs] at hkeys
      obtain rfl := orderKeys_of_unresolved rfl hkeys
      exact ⟨earlier, hearlier, hlast.trans hsort⟩
    | some s =>
      rw [hs] at hkeys
      have hmem := List.mem_of_getLast? hs
      obtain ⟨sort, rfl⟩ := orderKeys_of_resolved (Registry.resolved?_of_mem hmem) hkeys
      exact ⟨some sort, hkeys, hlast⟩

theorem order_of_idle (hidle : fresh.stage = .idle) (hkeys : fresh.orderKeys spec = .ok keys) :
    fresh.order spec = .ok { fresh with
      stage := .ordered, body := { fresh.body with sort := keys.getD fresh.body.sort } } := by
  rw [order_eq, hidle, Stage.advance_idle, hkeys]
  rfl

end IndexQuery

/-- Of the orders that resolve to a column, the last one alone sorts an index query, and nothing
does when there is none. On a relational query its keys come first and the base's own last, but
the keys of the earlier ones stay in between, latest first; so the query is sorted as by the last
one alone just when the earlier ones have no keys, which without strategies means that there are
none. -/
theorem orders_in_effect (registry : Registry) :
    (∀ store base calls h q h',
      let fresh := RelationalQuery.start store registry base
      let asked := registry.resolvedOrders (calls.flatMap (·.orders))
      writeAll fresh calls h = (.ok q, h') → ∃ alone keys earlier,
        fresh.order asked.getLast? = .ok alone ∧
        fresh.orderKeys asked.getLast? = .ok keys ∧ fresh.KeysOf asked.dropLast earlier ∧
        alone.relation.orderBy = keys ++ base.orderBy ∧
        q.relation.orderBy = keys ++ earlier.reverse.flatten ++ base.orderBy ∧
        (q.relation.orderBy = alone.relation.orderBy ↔ ∀ earlierKeys ∈ earlier, earlierKeys = []) ∧
        ((∀ c ∈ registry.columns, c.orderStrategy = none) →
          (q.relation.orderBy = alone.relation.orderBy ↔ asked.length ≤ 1)) ∧
        (asked = [] → q.relation.orderBy = base.orderBy)) ∧
    ∀ index settings reader calls h q h',
      let fresh := { IndexQuery.start index registry settings with reader }
      let asked := registry.resolvedOrders (calls.flatMap (·.orders))
      fresh.performAll calls h = (.ok q, h') → ∃ alone,
        fresh.order asked.getLast? = .ok alone ∧ q.body.sort = alone.body.sort ∧
        (asked = [] → q.body.sort = []) := by
  refine ⟨?_, ?_⟩
  · intro store base calls h q h' fresh asked hq
    obtain ⟨all, hall, horder⟩ : ∃ all, fresh.KeysOf asked all ∧
        q.relation.orderBy = all.reverse.flatten ++ base.orderBy :=
      RelationalQuery.orderBy_writeAll rfl hq
    obtain ⟨keys, earlier, hkeys, hearlier, hflatten⟩ := hall.last
    rw [hflatten] at horder
    obtain ⟨alone, halone, hfirst⟩ : ∃ alone, fresh.order asked.getLast? = .ok alone ∧
        alone.relation.orderBy = keys ++ base.orderBy :=
      ⟨_, RelationalQuery.order_of_idle rfl hkeys, rfl⟩
    have hsame : q.relation.orderBy = alone.relation.orderBy ↔
        ∀ earlierKeys ∈ earlier, earlierKeys = [] := by
      rw [horder, hfirst]
      simp
    refine ⟨alone, keys, earlier, halone, hkeys, hearlier, hfirst, horder, hsame, fun hplain => ?_,
      fun hnone => ?_⟩
    · have hasked : ∀ s ∈ asked.dropLast, registry.resolved? (some s) = some s := fun s hs =>
        Registry.resolved?_of_mem (List.dropLast_subset _ hs)
      rw [hsame, hearlier.all_nil_iff hplain hasked, ← List.length_eq_zero_iff,
        List.length_dropLast, Nat.sub_eq_zero_iff_le]
    · rw [hnone] at hkeys hearlier
      cases hkeys
      cases hearlier
      exact horder
  · intro index settings reader calls h q h' fresh asked hq
    obtain ⟨keys, hkeys, hsort⟩ : ∃ keys, fresh.orderKeys asked.getLast? = .ok keys ∧
        q.body.sort = keys.getD [] := IndexQuery.sort_performAll rfl rfl hq
    refine ⟨_, IndexQuery.order_of_idle rfl hkeys, hsort, fun hnone => ?_⟩
    rw [hnone] at hkeys
    cases hkeys
    exact hsort

theorem orders_in_effect_posts :
    let base : Sql.Relation := { Blog.posts with orderBy := ["posts.id ASC"] }
    let fresh := RelationalQuery.start Blog.store Blog.registry base
    let onIndex := { IndexQuery.start Blog.index Blog.registry {} with reader := fresh.reader }
    let calls : List WriteCall :=
      [.search [("title", "lean")], .order (some ⟨"title", .asc⟩), .order (some ⟨"fee", .desc⟩),
        .order (some ⟨"unknown", .asc⟩), .order none]
    let raw : List IndexCall := .filter .none :: calls.map .write
    (∃ q h' alone keys earlier, writeAll fresh calls [] = (.ok q, h') ∧
      fresh.order (some ⟨"fee", .desc⟩) = .ok alone ∧
      fresh.orderKeys (some ⟨"fee", .desc⟩) = .ok keys ∧
      fresh.KeysOf [⟨"title", .asc⟩] earlier ∧
      alone.relation.orderBy = keys ++ base.orderBy ∧
      q.relation.orderBy = keys ++ earlier.reverse.flatten ++ base.orderBy ∧
      q.relation.orderBy ≠ alone.relation.orderBy) ∧
    ∃ i h' alone, onIndex.performAll raw [] = (.ok i, h') ∧
      onIndex.order (some ⟨"fee", .desc⟩) = .ok alone ∧ i.body.sort = alone.body.sort ∧
      i.body.sort.length = 1 := by
  intro base fresh onIndex calls raw
  obtain ⟨hrelational, hindex⟩ := orders_in_effect Blog.registry
  refine ⟨?_, ?_⟩
  · obtain ⟨q, h', hq⟩ : ∃ q h', writeAll fresh calls [] = (.ok q, h') := ⟨_, _, rfl⟩
    obtain ⟨alone, keys, earlier, halone, hkeys, hearlier, hfirst, horder, -, hsame, -⟩ :=
      hrelational Blog.store base calls [] q h' hq
    refine ⟨q, h', alone, keys, earlier, hq, halone, hkeys, hearlier, hfirst, horder, ?_⟩
    rw [Ne, hsame (by decide)]
    decide
  · obtain ⟨i, h', hi, hlength⟩ : ∃ i h', onIndex.performAll raw [] = (.ok i, h') ∧
      i.body.sort.length = 1 := ⟨_, _, rfl, rfl⟩
    obtain ⟨alone, halone, hsort, -⟩ := hindex Blog.index {} _ raw [] i h' hi
    exact ⟨i, h', alone, hi, halone, hsort, hlength⟩

end TableView
