import TableView.Proofs.Aggregate.Identity
import TableView.Proofs.Query.Execution
import TableView.Proofs.Query.Placement

/-! A query asks the index for the aggregations of its registered requests and for no others, in
whatever order names are given, given again and taken back. -/
namespace TableView

/-- One call while an index query is written. -/
inductive IndexCall
  | write (call : WriteCall)
  | filter (c : Index.Clause)
  | query (c : Index.Clause)
  | aggregate (name : String) (spec : AggregateSpec)

namespace IndexCall

/-- What the call registers under a name. -/
def spec? (name : String) : IndexCall → Option AggregateSpec
  | aggregate n spec => if n = name then some spec else none
  | _ => none

/-- What calls register under a name in the end. -/
def lastSpec (name : String) : List IndexCall → Option AggregateSpec
  | [] => none
  | call :: rest => (lastSpec name rest).or (call.spec? name)

def Asks (spec : AggregateSpec) (calls : List IndexCall) : Prop :=
  ∃ name, aggregate name spec ∈ calls

/-- No two requests of different text share a key. -/
def CollisionFree (calls : List IndexCall) : Prop :=
  ∀ s t, Asks s calls → Asks t calls → s.key = t.key → s.identity = t.identity

end IndexCall

namespace IndexQuery
open Index (Aggregation Body)
open IndexCall (Asks CollisionFree lastSpec)

def perform (q : IndexQuery) : IndexCall → Session IndexQuery
  | .write call => TableQuery.write q call
  | .filter c => Session.ofExcept (q.filter c)
  | .query c => Session.ofExcept (q.query c)
  | .aggregate name spec => Session.ofExcept (q.aggregate name spec)

/-- All calls one after the other, up to the first that fails. -/
def performAll (q : IndexQuery) (calls : List IndexCall) : Session IndexQuery :=
  calls.foldlM perform q

variable {q q' : IndexQuery} {name key : String} {spec : AggregateSpec} {calls : List IndexCall}
  {call : IndexCall} {h h' : List Call} {asked : AggregateSpec → Prop}

theorem aggregations_release (aggregates : Fields AggregateSpec)
    (replaced : Option AggregateSpec) (b : Body) (key : String) :
    (release aggregates replaced b).aggregations.get? key =
      if (∃ old, replaced = some old ∧ old.key = key) ∧ ¬ ∃ e ∈ aggregates, e.2.key = key then none
      else b.aggregations.get? key := by
  cases replaced with
  | none => simp [release]
  | some old =>
    simp only [release, Option.some.injEq, exists_eq_left', List.any_eq_true, decide_eq_true_eq]
    by_cases hkey : old.key = key
    · subst hkey
      by_cases hused : ∃ e ∈ aggregates, e.2.key = old.key
      · simp [hused]
      · simp [hused, Body.removeAggregation, Fields.get?_erase]
    · simp only [hkey, false_and, if_false]
      split
      · rfl
      · simp [Body.removeAggregation, Fields.get?_erase, hkey]

theorem ascending_release {aggregates : Fields AggregateSpec} {replaced : Option AggregateSpec}
    {b : Body} (hb : b.aggregations.Ascending) :
    (release aggregates replaced b).aggregations.Ascending := by
  unfold release
  split
  · exact hb
  · split
    · exact hb
    · exact hb.erase _

theorem hasAggregation_release {aggregates : Fields AggregateSpec} {b : Body} :
    (release aggregates (q.aggregates.get? name) b).hasAggregation key = true ↔
      b.hasAggregation key = true ∧ ((∃ old, q.aggregates.get? name = some old ∧ old.key = key) →
        ∃ e ∈ aggregates, e.2.key = key) := by
  rw [Body.hasAggregation, Fields.contains, aggregations_release, Body.hasAggregation,
    Fields.contains]
  split
  case isTrue hgone => simp [hgone]
  case isFalse hkept =>
    refine ⟨fun h => ⟨h, fun hold => ?_⟩, And.left⟩
    by_contra hunused
    exact hkept ⟨hold, hunused⟩

/-- The requests that are registered after one more: that one, and those under other names. -/
theorem registered_insert (hnames : q.aggregates.Ascending) :
    (∃ e ∈ q.aggregates.insert name spec, e.2.key = key) ↔
      spec.key = key ∨ ∃ n s, name ≠ n ∧ q.aggregates.get? n = some s ∧ s.key = key := by
  have hinserted : (q.aggregates.insert name spec).Ascending := hnames.insert name spec
  constructor
  · rintro ⟨⟨n, s⟩, he, hkey⟩
    have hn := hinserted.mem_iff.mp he
    rw [Fields.get?_insert] at hn
    split at hn
    case isTrue =>
      obtain rfl := Option.some.inj hn
      exact Or.inl hkey
    case isFalse hne => exact Or.inr ⟨n, s, hne, hn, hkey⟩
  · rintro (hkey | ⟨n, s, hne, hn, hkey⟩)
    · exact ⟨(name, spec), hinserted.mem_iff.mpr (by simp [Fields.get?_insert]), hkey⟩
    · exact ⟨(n, s), hinserted.mem_iff.mpr (by simp [Fields.get?_insert, hne, hn]), hkey⟩

/-- Calls that ask for no aggregate leave all of them alone. -/
theorem perform_aggregations (hcall : ∀ name spec, call ≠ .aggregate name spec)
    (hq : perform q call h = (.ok q', h')) :
    q'.settings = q.settings ∧ q'.aggregates = q.aggregates ∧
      q'.body.aggregations = q.body.aggregations := by
  cases call with
  | write call =>
    cases call with
    | search terms =>
      obtain ⟨stage, added, -, -, rfl⟩ := search_eq_ok.mp hq
      exact ⟨rfl, rfl, (congrArg Body.aggregations unfiltered_foldl_push :)⟩
    | order spec =>
      obtain ⟨stage, -, hq⟩ := ok_of_bind (congrArg Prod.fst hq)
      obtain ⟨found, -, hq⟩ := ok_of_bind hq
      cases found with
      | none =>
        cases hq
        exact ⟨rfl, rfl, rfl⟩
      | some found =>
        obtain ⟨sort, -, hq⟩ := ok_of_bind hq
        cases hq
        exact ⟨rfl, rfl, rfl⟩
    | paginate w =>
      obtain ⟨stage, -, hq⟩ := ok_of_bind (congrArg Prod.fst hq)
      cases hq
      exact ⟨rfl, rfl, rfl⟩
  | filter c =>
    obtain ⟨stage, -, hq⟩ := ok_of_bind (congrArg Prod.fst hq)
    cases hq
    exact ⟨rfl, rfl, rfl⟩
  | query c =>
    obtain ⟨stage, -, hq⟩ := ok_of_bind (congrArg Prod.fst hq)
    cases hq
    exact ⟨rfl, rfl, rfl⟩
  | aggregate name spec => exact absurd rfl (hcall name spec)

/-- What asking for an aggregate does: its aggregation is there or is added, and the replaced one
may go. -/
theorem aggregate_eq_ok (hq : q.aggregate name spec = .ok q') : ∃ body : Body,
    (q.body.hasAggregation spec.key = true ∧ body = q.body ∨
      ∃ a, q.body.hasAggregation spec.key = false ∧ spec.compile q.settings = .ok a ∧
        body = { q.body with aggregations := q.body.aggregations.insert spec.key a }) ∧
    q' = { q with
      aggregates := q.aggregates.insert name spec
      body := release (q.aggregates.insert name spec) (q.aggregates.get? name) body } := by
  cases hin : q.body.hasAggregation spec.key with
  | true =>
    refine ⟨q.body, Or.inl ⟨rfl, rfl⟩, ?_⟩
    rw [aggregate, if_pos hin] at hq
    exact (Except.ok.inj hq).symm
  | false =>
    rw [aggregate, if_neg (by simp [hin])] at hq
    obtain ⟨body, hbody, hq⟩ := ok_of_bind hq
    cases hc : spec.compile q.settings with
    | error e =>
      rw [hc] at hbody
      cases hbody
    | ok a =>
      rw [hc] at hbody
      obtain rfl := Except.ok.inj hbody
      refine ⟨_, Or.inr ⟨a, rfl, rfl, rfl⟩, ?_⟩
      rw [Body.addAggregation, if_neg (by simp [hin])] at hq
      exact (Except.ok.inj hq).symm

/-- A request that compiles can be registered under any name; nothing else of the query changes. -/
theorem aggregate_of_compile {a : Aggregation} (hc : spec.compile q.settings = .ok a) :
    ∃ aggregates body, q.aggregate name spec = .ok { q with aggregates, body } := by
  rw [aggregate, hc]
  split <;> exact ⟨_, _, rfl⟩

/-- The keys of the aggregations are those of the registered requests, and each aggregation is what
some request asked for under its key. -/
structure Slots (asked : AggregateSpec → Prop) (q : IndexQuery) : Prop where
  names : q.aggregates.Ascending
  keys : q.body.aggregations.Ascending
  asks : ∀ name spec, q.aggregates.get? name = some spec → asked spec
  used : ∀ key, q.body.hasAggregation key = true ↔
    ∃ name spec, q.aggregates.get? name = some spec ∧ spec.key = key
  made : ∀ key a, q.body.aggregations.get? key = some a →
    ∃ s, asked s ∧ s.key = key ∧ s.compile q.settings = .ok a

/-- An aggregation stays just when some request has its key: the new one, or one under another
name. -/
theorem Slots.used_aggregate (hs : Slots asked q) {body : Body}
    (hbody : body.hasAggregation key = true ↔
      spec.key = key ∨ q.body.hasAggregation key = true) :
    (release (q.aggregates.insert name spec) (q.aggregates.get? name) body).hasAggregation key =
        true ↔ ∃ e ∈ q.aggregates.insert name spec, e.2.key = key := by
  rw [hasAggregation_release, hbody, hs.used]
  constructor
  · rintro ⟨hnew | ⟨n, s, hn, hkey⟩, hreplaced⟩
    · exact (registered_insert hs.names).mpr (Or.inl hnew)
    · by_cases hname : name = n
      · subst hname
        exact hreplaced ⟨s, hn, hkey⟩
      · exact (registered_insert hs.names).mpr (Or.inr ⟨n, s, hname, hn, hkey⟩)
  · intro hr
    refine ⟨?_, fun _ => hr⟩
    rcases (registered_insert hs.names).mp hr with hnew | ⟨n, s, -, hn, hkey⟩
    · exact Or.inl hnew
    · exact Or.inr ⟨n, s, hn, hkey⟩

theorem Slots.aggregate (hs : Slots asked q) (hspec : asked spec)
    (hq : q.aggregate name spec = .ok q') : Slots asked q' := by
  obtain ⟨body, hbody, rfl⟩ := aggregate_eq_ok hq
  have hnames : (q.aggregates.insert name spec).Ascending := hs.names.insert name spec
  -- before anything is released, the only new key is that of the request
  have hadded : ∀ key, body.hasAggregation key = true ↔
      spec.key = key ∨ q.body.hasAggregation key = true := by
    intro key
    obtain ⟨hin, rfl⟩ | ⟨a, -, -, rfl⟩ := hbody
    · refine ⟨Or.inr, fun h => h.elim (fun he => ?_) id⟩
      rw [← he]
      exact hin
    · simp only [Body.hasAggregation, Fields.contains, Fields.get?_insert]
      split <;> simp_all
  constructor
  case names => exact hnames
  case keys =>
    apply ascending_release
    obtain ⟨-, rfl⟩ | ⟨a, -, -, rfl⟩ := hbody
    · exact hs.keys
    · exact hs.keys.insert _ _
  case asks =>
    intro n s hn
    rw [Fields.get?_insert] at hn
    split at hn
    · exact Option.some.inj hn ▸ hspec
    · exact hs.asks n s hn
  case used =>
    intro key
    rw [hs.used_aggregate (hadded key)]
    simp only [Prod.exists, hnames.mem_iff]
  case made =>
    intro key a hget
    rw [aggregations_release] at hget
    split at hget
    · cases hget
    · obtain ⟨-, rfl⟩ | ⟨b, -, hb, rfl⟩ := hbody
      · exact hs.made key a hget
      · rw [Fields.get?_insert] at hget
        split at hget
        case isTrue hkey =>
          obtain rfl := Option.some.inj hget
          exact ⟨spec, hspec, hkey, hb⟩
        case isFalse => exact hs.made key a hget

theorem Slots.perform (hs : Slots asked q)
    (hcall : ∀ name spec, call = .aggregate name spec → asked spec)
    (hq : perform q call h = (.ok q', h')) : Slots asked q' := by
  by_cases hc : ∃ name spec, call = .aggregate name spec
  · obtain ⟨name, spec, rfl⟩ := hc
    exact hs.aggregate (hcall name spec rfl) (congrArg Prod.fst hq)
  · obtain ⟨hsettings, haggregates, haggregations⟩ :=
      perform_aggregations (fun name spec he => hc ⟨name, spec, he⟩) hq
    constructor
    case names => rw [haggregates]; exact hs.names
    case keys => rw [haggregations]; exact hs.keys
    case asks => rw [haggregates]; exact hs.asks
    case used =>
      intro key
      rw [haggregates, Body.hasAggregation, haggregations]
      exact hs.used key
    case made => rw [haggregations, hsettings]; exact hs.made

theorem perform_settings (hq : perform q call h = (.ok q', h')) : q'.settings = q.settings := by
  by_cases hc : ∃ name spec, call = .aggregate name spec
  · obtain ⟨name, spec, rfl⟩ := hc
    obtain ⟨body, -, rfl⟩ := aggregate_eq_ok (congrArg Prod.fst hq)
    rfl
  · exact (perform_aggregations (fun name spec he => hc ⟨name, spec, he⟩) hq).1

theorem perform_registered (hq : perform q call h = (.ok q', h')) (name : String) :
    q'.aggregates.get? name = (call.spec? name).or (q.aggregates.get? name) := by
  by_cases hc : ∃ name spec, call = .aggregate name spec
  · obtain ⟨n, spec, rfl⟩ := hc
    obtain ⟨body, -, rfl⟩ := aggregate_eq_ok (congrArg Prod.fst hq)
    rw [Fields.get?_insert, IndexCall.spec?]
    split <;> rfl
  · have hnone : call.spec? name = none := by
      cases call with
      | aggregate n spec => exact absurd ⟨n, spec, rfl⟩ hc
      | _ => rfl
    rw [hnone, (perform_aggregations (fun name spec he => hc ⟨name, spec, he⟩) hq).2.1]
    rfl

theorem Slots.performAll (hs : Slots asked q) (hcalls : ∀ s, Asks s calls → asked s)
    (hq : performAll q calls h = (.ok q', h')) :
    Slots asked q' ∧ q'.settings = q.settings ∧
      ∀ name, q'.aggregates.get? name = (lastSpec name calls).or (q.aggregates.get? name) := by
  induction calls generalizing q h with
  | nil =>
    cases hq
    exact ⟨hs, rfl, fun _ => rfl⟩
  | cons call calls ih =>
    rw [IndexQuery.performAll, List.foldlM_cons] at hq
    obtain ⟨q₁, h₁, hfirst, hrest⟩ := Session.bind_eq_ok.mp hq
    have hslots : Slots asked q₁ := by
      apply hs.perform _ hfirst
      rintro name spec rfl
      exact hcalls spec ⟨name, List.mem_cons_self⟩
    obtain ⟨hslots', hsettings, hnames⟩ := ih hslots
      (fun s ⟨name, hm⟩ => hcalls s ⟨name, List.mem_cons_of_mem _ hm⟩) hrest
    refine ⟨hslots', hsettings.trans (perform_settings hfirst), fun name => ?_⟩
    rw [hnames, perform_registered hfirst, lastSpec, Option.or_assoc]

theorem slots_start (index : SearchIndex) (registry : Registry) (settings : Settings)
    (reader : TermReader) (asked : AggregateSpec → Prop) :
    Slots asked { start index registry settings with reader } where
  names := Fields.ascending_nil
  keys := Fields.ascending_nil
  asks := by simp [start]
  used := by simp [start, Body.hasAggregation, Fields.contains]
  made := by simp [start]

/-- The aggregations that a search asks for. -/
def sentAggregations (body : Json) : Fields Json :=
  match body.get? "aggs" with
  | some (.obj fields) => fields
  | _ => []

theorem sentAggregations_toJson (b : Body) :
    sentAggregations b.toJson = b.aggregations.map fun e => (e.1, e.2.toJson) := by
  cases hb : b.aggregations with
  | nil =>
    cases hs : b.skip <;> cases hz : b.size <;> cases ht : b.sort.isEmpty <;>
      simp [sentAggregations, Body.toJson, Json.get?, hb, hs, hz, ht]
  | cons e rest => simp [sentAggregations, Body.toJson, Json.get?, hb]

theorem execute_eq_ok {e : ExecutedQuery} (he : q.execute h = (.ok e, h')) :
    h' = h ++ [.search q.body.toJson] ∧ e.aggregates = q.aggregates := by
  obtain ⟨response, total, -, -, rfl, rfl⟩ := execute_iff.mp he
  exact ⟨rfl, rfl⟩

/-- Aggregations by key, one for each request that some name stands for and no others, each the one
that the request compiles to. Numbers in filters and bodies count by their text. -/
structure Serves (settings : Settings) (requests : String → Option AggregateSpec)
    (sent : Fields Json) : Prop where
  keys : ∀ key, sent.contains key = true ↔
    ∃ name spec, requests name = some spec ∧ spec.key = key
  bodies : ∀ name spec, requests name = some spec → ∃ j a, sent.get? spec.key = some j ∧
    spec.compile settings = .ok a ∧ j.compact = a.toJson.compact

theorem Slots.serves (hs : Slots (Asks · calls) q) (hfree : CollisionFree calls) :
    Serves q.settings q.aggregates.get? (q.body.aggregations.map fun e => (e.1, e.2.toJson)) := by
  constructor
  case keys =>
    intro key
    rw [← hs.used, Body.hasAggregation, Fields.contains, Fields.contains, Fields.get?_map,
      Option.isSome_map]
  case bodies =>
    intro name spec hname
    obtain ⟨a, ha⟩ := Fields.contains_iff.mp ((hs.used _).mpr ⟨name, spec, hname, rfl⟩)
    obtain ⟨maker, hmaker, hkey, hcompiled⟩ := hs.made _ a ha
    -- whoever put the aggregation there asked for the same
    have hidentity := hfree maker spec hmaker (hs.asks name spec hname) hkey
    have htext := AggregateSpec.compiledText_congr hidentity q.settings
    rw [AggregateSpec.compiledText, AggregateSpec.compiledText, hcompiled] at htext
    cases hc : spec.compile q.settings with
    | error e =>
      rw [hc] at htext
      cases htext
    | ok b =>
      rw [hc] at htext
      refine ⟨a.toJson, b, by rw [Fields.get?_map, ha]; rfl, rfl, ?_⟩
      exact congrArg String.ofList (Except.ok.inj htext)

/-- However an index query is written, each name stands for its last request, and the aggregations
written and sent are those of the requests that names stand for. -/
theorem aggregations_match_requests {index : SearchIndex} {registry : Registry}
    {settings : Settings} {reader : TermReader} {calls : List IndexCall} {h h' : List Call}
    {q : IndexQuery}
    (hrun : performAll { start index registry settings with reader } calls h = (.ok q, h'))
    (hfree : CollisionFree calls) :
    (∀ name, q.aggregates.get? name = lastSpec name calls) ∧
    Serves settings (lastSpec · calls) (q.body.aggregations.map fun e => (e.1, e.2.toJson)) ∧
    ∀ executed h'', q.execute h' = (.ok executed, h'') → ∃ body, h'' = h' ++ [.search body] ∧
      Serves settings executed.aggregates.get? (sentAggregations body) := by
  obtain ⟨hslots, hsettings, hnames⟩ :=
    (slots_start index registry settings reader (Asks · calls)).performAll (fun _ hs => hs) hrun
  have hlast : ∀ name, q.aggregates.get? name = lastSpec name calls := by
    intro name
    rw [hnames]
    exact Option.or_none
  have hserves := hslots.serves hfree
  rw [show q.settings = settings from hsettings] at hserves
  refine ⟨hlast, funext hlast ▸ hserves, fun executed h'' he => ?_⟩
  obtain ⟨rfl, haggregates⟩ := execute_eq_ok he
  refine ⟨_, rfl, ?_⟩
  rw [sentAggregations_toJson, haggregates]
  exact hserves

end IndexQuery

namespace Blog

/-- It finds two documents, whatever it is asked. -/
def found : SearchIndex where
  search _ _ := .ok (.obj [("hits", .obj [("total", .int 2)])])
  searchField _ := none

def byAuthor : AggregateSpec := { field := "author", kind := .termsCount }

def bySite : AggregateSpec := { field := "site", kind := .termsCount }

/-- Two names change places, with a search in between. -/
def exchange : List IndexCall := [
  .aggregate "left" byAuthor, .aggregate "right" bySite, .write (.search [("title", "lean")]),
  .aggregate "left" bySite, .aggregate "right" byAuthor]

theorem exchange_collisionFree : IndexCall.CollisionFree exchange := by
  have hne : byAuthor.key ≠ bySite.key := by decide +kernel
  have hasks : ∀ s, IndexCall.Asks s exchange → s = byAuthor ∨ s = bySite := by
    rintro s ⟨name, hm⟩
    simp only [exchange, List.mem_cons, List.not_mem_nil, or_false, reduceCtorEq, false_or,
      IndexCall.aggregate.injEq] at hm
    rcases hm with ⟨-, rfl⟩ | ⟨-, rfl⟩ | ⟨-, rfl⟩ | ⟨-, rfl⟩ <;> simp
  intro s t hs ht hkey
  rcases hasks s hs with rfl | rfl <;> rcases hasks t ht with rfl | rfl
  · rfl
  · exact absurd hkey hne
  · exact absurd hkey.symm hne
  · rfl

end Blog

open IndexQuery IndexCall in
theorem IndexQuery.aggregations_match_requests_exchange :
    ∃ q h' executed h'',
      performAll (start Blog.found Blog.registry {}) Blog.exchange [] = (.ok q, h') ∧
      CollisionFree Blog.exchange ∧ q.execute h' = (.ok executed, h'') ∧
      q.aggregates.get? "left" = some Blog.bySite ∧
      Serves {} (lastSpec · Blog.exchange) (q.body.aggregations.map fun e => (e.1, e.2.toJson)) ∧
      ∃ body, h'' = h' ++ [.search body] ∧
        Serves {} executed.aggregates.get? (sentAggregations body) := by
  let q₀ := start Blog.found Blog.registry {}
  -- what the calls do is followed up to the aggregates, whose keys need not be known
  obtain ⟨m₁, b₁, h₁⟩ : ∃ m b, q₀.aggregate "left" Blog.byAuthor =
      .ok { q₀ with aggregates := m, body := b } := aggregate_of_compile rfl
  let q₁ := { q₀ with aggregates := m₁, body := b₁ }
  obtain ⟨m₂, b₂, h₂⟩ : ∃ m b, q₁.aggregate "right" Blog.bySite =
      .ok { q₁ with aggregates := m, body := b } := aggregate_of_compile rfl
  let q₂ := { q₁ with aggregates := m₂, body := b₂ }
  obtain ⟨b₃, h₃⟩ : ∃ b, q₂.search [("title", "lean")] [] =
      (.ok { q₂ with stage := .filtered, body := b }, []) := ⟨_, rfl⟩
  let q₃ := { q₂ with stage := .filtered, body := b₃ }
  obtain ⟨m₄, b₄, h₄⟩ : ∃ m b, q₃.aggregate "left" Blog.bySite =
      .ok { q₃ with aggregates := m, body := b } := aggregate_of_compile rfl
  let q₄ := { q₃ with aggregates := m₄, body := b₄ }
  obtain ⟨m₅, b₅, h₅⟩ : ∃ m b, q₄.aggregate "right" Blog.byAuthor =
      .ok { q₄ with aggregates := m, body := b } := aggregate_of_compile rfl
  let q₅ := { q₄ with aggregates := m₅, body := b₅ }
  have hrun : performAll q₀ Blog.exchange [] = (.ok q₅, []) := by
    refine (Session.bind_of_ok (congrArg (·, []) h₁)).trans ?_
    refine (Session.bind_of_ok (congrArg (·, []) h₂)).trans ?_
    refine (Session.bind_of_ok h₃).trans ?_
    refine (Session.bind_of_ok (congrArg (·, []) h₄)).trans ?_
    exact Session.bind_of_ok (congrArg (·, []) h₅)
  obtain ⟨executed, h'', he⟩ : ∃ executed h'', q₅.execute [] = (.ok executed, h'') :=
    ⟨_, _, rfl⟩
  obtain ⟨hnames, hwritten, hsent⟩ := aggregations_match_requests hrun Blog.exchange_collisionFree
  exact ⟨q₅, [], executed, h'', hrun, Blog.exchange_collisionFree, he, hnames "left", hwritten,
    hsent executed h'' he⟩

end TableView
