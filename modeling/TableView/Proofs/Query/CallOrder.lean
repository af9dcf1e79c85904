import Mathlib.Data.List.Induction
import TableView.Proofs.Aggregate.Slots
import TableView.Proofs.Query.Effects

/-! Which sequences of calls a query takes: searches, then orders, then pages, with raw clauses
ahead of all of them and aggregates anywhere. -/
namespace TableView

namespace IndexCall

/-- Whether a call may come at any time after an earlier one. -/
def MayFollow (call earlier : IndexCall) : Prop :=
  match earlier, call with
  | .write first, .write second => first.stage.rank ≤ second.stage.rank
  | .write _, .filter _ => False
  | .write _, .query _ => False
  | _, _ => True

/-- Every call may follow all that come before it. -/
def InOrder (calls : List IndexCall) : Prop :=
  calls.Pairwise fun earlier call => call.MayFollow earlier

def operation : IndexCall → String
  | write call => call.operation
  | filter _ => "filter"
  | query _ => "query"
  | aggregate _ _ => "aggregate"

/-- The error of a call that comes after a stage which it may not follow. -/
def late (call : IndexCall) (s : Stage) : Error :=
  match call with
  | write _ => .contract call.operation ("called after " ++ s.word ++ " stage")
  | _ => .contract call.operation ("scope changed after " ++ s.word ++ " stage")

/-- The stage after a call, unless the call comes too late. -/
def turn (s : Stage) : IndexCall → Except Error Stage
  | write call => s.advance call.operation call.stage
  | filter _ => (s.scope "filter").map fun _ => s
  | query _ => (s.scope "query").map fun _ => s
  | aggregate _ _ => .ok s

end IndexCall

open IndexCall (InOrder MayFollow turn)

variable {s t : Stage} {call : IndexCall} {before : List IndexCall} {e : Error}

/-- The stage that calls in their order lead to, which is that of the last search, order or page. -/
structure Stage.ReachedBy (s : Stage) (calls : List IndexCall) : Prop where
  made : s = .idle ∨ ∃ call, .write call ∈ calls ∧ call.stage = s
  latest : ∀ call, .write call ∈ calls → call.stage.rank ≤ s.rank

theorem WriteCall.rank_pos (call : WriteCall) : 0 < call.stage.rank := by
  cases call <;> exact Nat.succ_pos _

theorem Stage.scope_eq_ok {operation : String} :
    (s.scope operation).map (fun _ => s) = .ok t ↔ s = .idle ∧ t = .idle := by
  unfold scope
  split <;> simp [Except.map, eq_comm, *]

namespace IndexCall

/-- A call that comes too late says so, and names the stage of the query. -/
theorem turn_eq_error (ht : turn s call = .error e) : e = call.late s ∧ s ≠ .idle := by
  cases call with
  | write call =>
    obtain ⟨hrank, rfl⟩ := Stage.advance_eq_error.mp ht
    refine ⟨rfl, ?_⟩
    rintro rfl
    exact absurd hrank (Nat.not_lt_zero _)
  | filter c | query c =>
    simp only [turn, Stage.scope] at ht
    split at ht
    · cases ht
    · cases ht
      exact ⟨rfl, ‹_›⟩
  | aggregate name spec => cases ht

end IndexCall

namespace Stage.ReachedBy

theorem nil : ReachedBy .idle [] := ⟨Or.inl rfl, by simp⟩

/-- Nothing but raw clauses and aggregates leaves a query idle. -/
theorem eq_idle_iff (hs : s.ReachedBy before) : s = .idle ↔ ∀ call, .write call ∉ before := by
  constructor
  · rintro rfl call hm
    exact absurd (hs.latest call hm) (Nat.not_le_of_lt call.rank_pos)
  · intro hnone
    exact hs.made.resolve_right fun ⟨call, hm, _⟩ => hnone call hm

theorem follows_raw (hs : s.ReachedBy before) (hraw : ∀ earlier, call.MayFollow earlier ↔
    ∀ first, earlier ≠ .write first) :
    (∀ earlier ∈ before, call.MayFollow earlier) ↔ s = .idle := by
  rw [hs.eq_idle_iff]
  constructor
  · intro h first hm
    exact (hraw _).mp (h _ hm) first rfl
  · intro h earlier hm
    exact (hraw _).mpr fun first he => h first (he ▸ hm)

/-- A call comes in its turn just when it may follow all that came before. -/
theorem turn_iff (hs : s.ReachedBy before) :
    (∃ t, turn s call = .ok t) ↔ ∀ earlier ∈ before, call.MayFollow earlier := by
  cases call with
  | write second =>
    simp only [turn, Stage.advance_eq_ok]
    constructor
    · rintro ⟨t, hrank, -⟩ earlier hm
      cases earlier with
      | write first => exact (hs.latest first hm).trans hrank
      | _ => trivial
    · intro hfollow
      refine ⟨_, ?_, rfl⟩
      rcases hs.made with rfl | ⟨first, hm, rfl⟩
      · exact Nat.zero_le _
      · exact hfollow _ hm
  | filter c | query c =>
    rw [hs.follows_raw fun earlier => by cases earlier <;> simp [MayFollow]]
    simp [turn, Stage.scope_eq_ok]
  | aggregate name spec =>
    refine iff_of_true ⟨s, rfl⟩ fun earlier _ => ?_
    cases earlier <;> trivial

theorem snoc (hs : s.ReachedBy before) (ht : turn s call = .ok t) :
    t.ReachedBy (before ++ [call]) := by
  cases call with
  | write second =>
    obtain ⟨hrank, rfl⟩ := Stage.advance_eq_ok.mp ht
    refine ⟨Or.inr ⟨second, by simp, rfl⟩, fun first hm => ?_⟩
    rcases List.mem_append.mp hm with hm | hm
    · exact (hs.latest first hm).trans hrank
    · cases List.mem_singleton.mp hm
      exact Nat.le_refl _
  | filter c | query c =>
    obtain ⟨rfl, rfl⟩ := Stage.scope_eq_ok.mp ht
    exact ⟨Or.inl rfl, by simpa using hs.latest⟩
  | aggregate name spec =>
    cases ht
    exact ⟨by simpa using hs.made, by simpa using hs.latest⟩

/-- Whatever comes too late may not follow the call that led to the present stage. -/
theorem late_of_turn (hs : s.ReachedBy before) (ht : turn s call = .error e) :
    ∃ earlier, .write earlier ∈ before ∧ ¬ call.MayFollow (.write earlier) ∧
      earlier.stage.ReachedBy before ∧ e = call.late earlier.stage := by
  obtain ⟨rfl, hidle⟩ := IndexCall.turn_eq_error ht
  obtain ⟨earlier, hm, rfl⟩ := hs.made.resolve_left hidle
  refine ⟨earlier, hm, fun hfollow => ?_, hs, rfl⟩
  cases call with
  | write second => exact absurd hfollow (Nat.not_le_of_lt (Stage.advance_eq_error.mp ht).1)
  | filter c | query c => exact hfollow
  | aggregate name spec => cases ht

end Stage.ReachedBy

theorem IndexCall.inOrder_snoc : InOrder (before ++ [call]) ↔
    InOrder before ∧ ∀ earlier ∈ before, call.MayFollow earlier := by
  simp [InOrder, List.pairwise_append]

section Calls
open Session (foldlM_snoc_eq_ok foldlM_of_error)
variable {Q C : Type} (perform : Q → C → Session Q) (kind : C → IndexCall) (fresh : Q)
  (calls : List C) (h : List Call)

/-- The query takes the calls, one after the other. -/
def Takes : Prop := ∃ q h', calls.foldlM perform fresh h = (.ok q, h')

/-- Each call is acceptable in itself: when it comes, a query that is fresh would take it. -/
def Acceptable : Prop :=
  ∀ before c q g, before ++ [c] <+: calls → before.foldlM perform fresh h = (.ok q, g) →
    ∃ q' g', perform fresh c g = (.ok q', g')

/-- A fresh query takes acceptable calls just when they are in order, and stops at the first that is
not. Calls in order can fail only where one of them would fail on a fresh query. -/
structure TakesInOrder : Prop where
  takes_iff : ∀ calls h, Acceptable perform fresh calls h →
    (Takes perform fresh calls h ↔ InOrder (calls.map kind))
  stops : ∀ before c after h, Acceptable perform fresh before h → InOrder (before.map kind) →
    ¬ InOrder ((before ++ [c]).map kind) → ∃ q h' earlier,
      before.foldlM perform fresh h = (.ok q, h') ∧ .write earlier ∈ before.map kind ∧
      ¬ (kind c).MayFollow (.write earlier) ∧ earlier.stage.ReachedBy (before.map kind) ∧
      (before ++ c :: after).foldlM perform fresh h = (.error ((kind c).late earlier.stage), h')
  fails : ∀ calls h e h', InOrder (calls.map kind) →
    calls.foldlM perform fresh h = (.error e, h') → ∃ before c q g, before ++ [c] <+: calls ∧
      before.foldlM perform fresh h = (.ok q, g) ∧ perform fresh c g = (.error e, h')

/-- How one call goes on a query that was written from a fresh one: it is refused when it comes too
late, and else fails only if the fresh one would. -/
structure Staged (stage : Q → Stage) (Written : Q → Prop) : Prop where
  written : Written fresh
  idle : stage fresh = .idle
  refuses : ∀ {q c h e}, turn (stage q) (kind c) = .error e → perform q c h = (.error e, h)
  fails : ∀ {q c h e h' s}, Written q → turn (stage q) (kind c) = .ok s →
    perform q c h = (.error e, h') → perform fresh c h = (.error e, h')
  keeps : ∀ {q c h q' h'}, Written q → perform q c h = (.ok q', h') →
    Written q' ∧ turn (stage q) (kind c) = .ok (stage q')

variable {perform kind fresh calls h} {stage : Q → Stage} {Written : Q → Prop} {q : Q} {c : C}
  {h' : List Call}

theorem Acceptable.initial {some more : List C} (ha : Acceptable perform fresh (some ++ more) h) :
    Acceptable perform fresh some h := fun before c q g hp =>
  ha before c q g (hp.trans (List.prefix_append _ _))

/-- Calls that a fresh query takes at any time are acceptable. -/
theorem Acceptable.of_forall
    (ht : ∀ c ∈ calls, ∀ g, ∃ q g', perform fresh c g = (.ok q, g')) :
    Acceptable perform fresh calls h := by
  intro before c q g hp _
  exact ht c (hp.subset (by simp)) g

namespace Staged

/-- Calls that have been taken were in order, and lead to the stage that they reach. -/
theorem run (hs : Staged perform kind fresh stage Written)
    (hrun : calls.foldlM perform fresh h = (.ok q, h')) :
    Written q ∧ (stage q).ReachedBy (calls.map kind) ∧ InOrder (calls.map kind) := by
  induction calls using List.reverseRecOn generalizing q h' with
  | nil =>
    cases hrun
    exact ⟨hs.written, hs.idle ▸ .nil, .nil⟩
  | append_singleton calls c ih =>
    obtain ⟨q₁, g, hcalls, hc⟩ := foldlM_snoc_eq_ok.mp hrun
    obtain ⟨hw, hreached, horder⟩ := ih hcalls
    obtain ⟨hw', hturn⟩ := hs.keeps hw hc
    rw [List.map_append, List.map_singleton, IndexCall.inOrder_snoc]
    exact ⟨hw', hreached.snoc hturn, horder, hreached.turn_iff.mp ⟨_, hturn⟩⟩

theorem takes_iff (hs : Staged perform kind fresh stage Written)
    (ha : Acceptable perform fresh calls h) :
    Takes perform fresh calls h ↔ InOrder (calls.map kind) := by
  constructor
  · rintro ⟨q, h', hrun⟩
    exact (hs.run hrun).2.2
  · intro horder
    induction calls using List.reverseRecOn with
    | nil => exact ⟨fresh, h, rfl⟩
    | append_singleton calls c ih =>
      rw [List.map_append, List.map_singleton, IndexCall.inOrder_snoc] at horder
      obtain ⟨q, g, hcalls⟩ := ih ha.initial horder.1
      obtain ⟨hw, hreached, -⟩ := hs.run hcalls
      obtain ⟨s, hturn⟩ := hreached.turn_iff.mpr horder.2
      rcases hc : perform q c g with ⟨e | q', g'⟩
      · -- what fails in its turn is no acceptable call
        obtain ⟨f, k, hf⟩ := ha calls c q g List.prefix_rfl hcalls
        rw [hs.fails hw hturn hc] at hf
        cases hf
      · exact ⟨q', g', foldlM_snoc_eq_ok.mpr ⟨q, g, hcalls, hc⟩⟩

theorem takesInOrder (hs : Staged perform kind fresh stage Written) :
    TakesInOrder perform kind fresh where
  takes_iff calls h ha := hs.takes_iff ha
  stops before c after h ha horder hbreak := by
    obtain ⟨q, g, hbefore⟩ := (hs.takes_iff ha).mpr horder
    obtain ⟨-, hreached, -⟩ := hs.run hbefore
    rw [List.map_append, List.map_singleton, IndexCall.inOrder_snoc, ← hreached.turn_iff] at hbreak
    cases hturn : turn (stage q) (kind c) with
    | ok s => exact absurd ⟨horder, s, hturn⟩ hbreak
    | error e =>
      obtain ⟨earlier, hm, hfollow, hlast, rfl⟩ := hreached.late_of_turn hturn
      exact ⟨q, g, earlier, hbefore, hm, hfollow, hlast,
        foldlM_of_error hbefore (hs.refuses hturn)⟩
  fails calls h e h' horder hrun := by
    induction calls using List.reverseRecOn generalizing e h' with
    | nil => cases hrun
    | append_singleton calls c ih =>
      rw [List.map_append, List.map_singleton, IndexCall.inOrder_snoc] at horder
      rw [Session.foldlM_snoc] at hrun
      rcases hcalls : calls.foldlM perform fresh h with ⟨e' | q, g⟩
      · rw [Session.bind_of_error hcalls] at hrun
        cases hrun
        obtain ⟨before, d, q, k, hp, hbefore, hd⟩ := ih _ _ horder.1 hcalls
        exact ⟨before, d, q, k, hp.trans (List.prefix_append _ _), hbefore, hd⟩
      · obtain ⟨hw, hreached, -⟩ := hs.run hcalls
        obtain ⟨s, hturn⟩ := hreached.turn_iff.mpr horder.2
        rw [Session.bind_of_ok hcalls] at hrun
        exact ⟨calls, c, q, g, List.prefix_rfl, hcalls, hs.fails hw hturn hrun⟩

/-- The calls of one sort may be a part of those of another. -/
theorem restrict {D : Type} (hs : Staged perform kind fresh stage Written) (f : D → C) :
    Staged (fun q d => perform q (f d)) (fun d => kind (f d)) fresh stage Written where
  written := hs.written
  idle := hs.idle
  refuses := hs.refuses
  fails := hs.fails
  keeps := hs.keeps

end Staged
end Calls

/-- A relational query does the same in its turn as any idle query of its scope. -/
theorem RelationalQuery.staged {fresh : RelationalQuery} (hidle : fresh.stage = .idle) :
    Staged TableQuery.write IndexCall.write fresh RelationalQuery.stage (SameScope · fresh) where
  written := ⟨rfl, rfl, rfl⟩
  idle := hidle
  refuses := write_of_late
  fails := by
    intro q c h e h' s hq hturn hc
    rw [write_eq_error hturn, effect_congr hq] at hc
    exact (write_eq_error (by rw [hidle, Stage.advance_idle])).mpr hc
  keeps := by
    intro q c h q' h' hq hc
    obtain ⟨s, change, hturn, -, rfl⟩ := write_eq_ok.mp hc
    exact ⟨⟨hq.store, hq.registry, hq.base⟩, hturn⟩

/-- What holds of the relation at first and is kept by what each call does to it holds of the
relation that is written. -/
theorem RelationalQuery.writeAll_induction {fresh q : RelationalQuery} {calls : List WriteCall}
    {h h' : List Call} {motive : List WriteCall → Sql.Relation → List Call → Prop}
    (hidle : fresh.stage = .idle) (hstart : motive [] fresh.relation h)
    (hstep : ∀ calls call r g change g', motive calls r g →
      fresh.effect call g = (.ok change, g') → motive (calls ++ [call]) (change r) g')
    (hq : TableQuery.writeAll fresh calls h = (.ok q, h')) : motive calls q.relation h' := by
  induction calls using List.reverseRecOn generalizing q h' with
  | nil =>
    cases hq
    exact hstart
  | append_singleton calls call ih =>
    obtain ⟨q₁, g, hcalls, hcall⟩ := Session.foldlM_snoc_eq_ok.mp hq
    obtain ⟨hscope, -⟩ := (staged hidle).run hcalls
    obtain ⟨stage, change, -, hc, rfl⟩ := write_eq_ok.mp hcall
    rw [effect_congr hscope] at hc
    exact hstep calls call q₁.relation g change h' (ih hcalls) hc

theorem RelationalQuery.staged_start (store : RecordStore) (registry : Registry)
    (base : Sql.Relation) : Staged TableQuery.write IndexCall.write (start store registry base)
      RelationalQuery.stage (SameScope · (start store registry base)) :=
  staged rfl

namespace IndexQuery
variable {q q' : IndexQuery} {name : String} {spec : AggregateSpec}

/-- What a raw clause does to the body. -/
def rawEffect : IndexCall → Option (Index.Body → Index.Body)
  | .filter c => some (·.pushFilter c)
  | .query c => some (·.pushQuery c)
  | _ => none

theorem perform_raw {change : Index.Body → Index.Body} (hraw : rawEffect call = some change) :
    perform q call =
      Session.ofExcept ((turn q.stage call).map fun _ => { q with body := change q.body }) := by
  cases call with
  | filter c | query c =>
    cases hraw
    simp only [perform, filter, query, turn]
    cases q.stage.scope _ <;> rfl
  | write call => cases hraw
  | aggregate name spec => cases hraw

/-- A request is refused only when it has to be compiled and cannot be. -/
theorem aggregate_eq_error : q.aggregate name spec = .error e ↔
    q.body.hasAggregation spec.key = false ∧ spec.compile q.settings = .error e := by
  cases hin : q.body.hasAggregation spec.key with
  | true =>
    rw [aggregate, if_pos hin]
    exact iff_of_false (fun h => by cases h) (fun h => by cases h.1)
  | false =>
    rw [aggregate, if_neg (by simp [hin])]
    cases spec.compile q.settings with
    | error e' => exact ⟨fun h => ⟨rfl, by cases h; rfl⟩, fun h => by cases h.2; rfl⟩
    | ok a => exact iff_of_false (fun h => by cases h) (fun h => by cases h.2)

/-- An index query does the same in its turn as an idle query of its scope that has no
aggregations. -/
theorem staged {fresh : IndexQuery} (hidle : fresh.stage = .idle)
    (hnone : fresh.body.aggregations = []) :
    Staged perform id fresh IndexQuery.stage (SameScope · fresh) where
  written := ⟨rfl, rfl, rfl, rfl⟩
  idle := hidle
  refuses := by
    intro q call h e hturn
    rw [id_eq] at hturn
    cases call with
    | write call => exact write_of_late hturn
    | filter c | query c => rw [perform_raw rfl, hturn]; rfl
    | aggregate name spec => cases hturn
  fails := by
    intro q call h e h' s hq hturn hc
    rw [id_eq] at hturn
    cases call with
    | write call =>
      have heffect := (write_eq_error hturn).mp hc
      rw [effect_congr hq] at heffect
      exact (write_eq_error (by rw [hidle, Stage.advance_idle])).mpr heffect
    | filter c | query c =>
      rw [perform_raw rfl, hturn] at hc
      cases hc
    | aggregate name spec =>
      obtain ⟨herror, rfl⟩ := Prod.mk.inj hc
      obtain ⟨-, hcompile⟩ := aggregate_eq_error.mp herror
      rw [hq.settings] at hcompile
      have hfresh : fresh.body.hasAggregation spec.key = false := by
        simp [Index.Body.hasAggregation, Fields.contains, hnone]
      exact congrArg (·, h) (aggregate_eq_error.mpr ⟨hfresh, hcompile⟩)
  keeps := by
    intro q call h q' h' hq hc
    rw [id_eq]
    have hscope : ∀ body aggregates stage,
        SameScope { q with body, aggregates, stage } fresh := fun _ _ _ =>
      ⟨hq.index, hq.registry, hq.settings, hq.reader⟩
    cases call with
    | write call =>
      obtain ⟨s, change, hturn, -, rfl⟩ := write_eq_ok.mp hc
      exact ⟨hscope _ _ _, hturn⟩
    | filter c | query c =>
      rw [perform_raw rfl] at hc
      cases hturn : turn q.stage _ with
      | error e =>
        rw [hturn] at hc
        cases hc
      | ok s =>
        rw [hturn] at hc
        cases hc
        obtain ⟨hs, rfl⟩ := Stage.scope_eq_ok.mp hturn
        exact ⟨hscope _ _ _, congrArg Except.ok hs.symm⟩
    | aggregate name spec =>
      obtain ⟨body, -, rfl⟩ := aggregate_eq_ok (congrArg Prod.fst hc)
      exact ⟨hscope _ _ _, rfl⟩

theorem staged_start (index : SearchIndex) (registry : Registry) (settings : Settings)
    (reader : TermReader) : Staged perform id { start index registry settings with reader }
      IndexQuery.stage (SameScope · { start index registry settings with reader }) :=
  staged rfl rfl

end IndexQuery

section Run
open TableQuery (execute run write writeAll)
variable {Q : Type} [TableQuery Q] {fresh : Q} {stage : Q → Stage} {Written : Q → Prop}

/-- The calls by which a request is written. -/
def Request.calls (r : Request) (s : Settings) : List WriteCall :=
  [.search r.searchTerms, .order r.order, .paginate (r.window s)]

/-- Answering a request makes its calls in their turn, so that it can fail only where one of them
would fail on a fresh query, or once they are all made. -/
structure RunsInTurn (fresh : Q) (stage : Q → Stage) : Prop where
  inTurn : ∀ (r : Request) (s : Settings) h before c q g, before ++ [c] <+: r.calls s →
    writeAll fresh before h = (.ok q, g) →
      (stage q).advance c.operation c.stage = .ok c.stage
  fails : ∀ (r : Request) (s : Settings) h e h', run fresh r s h = (.error e, h') →
    (∃ before c q g, before ++ [c] <+: r.calls s ∧ writeAll fresh before h = (.ok q, g) ∧
      write fresh c g = (.error e, h')) ∨
    ∃ q g, writeAll fresh (r.calls s) h = (.ok q, g) ∧
      (execute q >>= ExecutedQuery.page) g = (.error e, h')

theorem Request.calls_inOrder (r : Request) (s : Settings) :
    InOrder ((r.calls s).map .write) := by
  simp [calls, InOrder, MayFollow, WriteCall.stage, Stage.rank]

theorem TableQuery.run_eq (q : Q) (r : Request) (s : Settings) :
    run q r s = writeAll q (r.calls s) >>= fun q => execute q >>= ExecutedQuery.page := by
  simp only [run, writeAll, Request.calls, List.foldlM_cons, List.foldlM_nil, write, bind_assoc,
    pure_bind]

theorem Staged.runsInTurn (hs : Staged write IndexCall.write fresh stage Written) :
    RunsInTurn fresh stage where
  inTurn r s h before c q g hp hbefore := by
    obtain ⟨-, hreached, -⟩ := hs.run hbefore
    have horder : InOrder ((before ++ [c]).map .write) :=
      (r.calls_inOrder s).sublist (hp.map _).sublist
    rw [List.map_append, List.map_singleton, IndexCall.inOrder_snoc] at horder
    obtain ⟨t, hturn⟩ := hreached.turn_iff.mpr horder.2
    obtain ⟨-, rfl⟩ := Stage.advance_eq_ok.mp hturn
    exact hturn
  fails r s h e h' hrun := by
    rw [TableQuery.run_eq] at hrun
    rcases hwritten : writeAll fresh (r.calls s) h with ⟨e' | q, g⟩
    · rw [Session.bind_of_error hwritten] at hrun
      cases hrun
      exact Or.inl (hs.takesInOrder.fails _ _ _ _ (r.calls_inOrder s) hwritten)
    · rw [Session.bind_of_ok hwritten] at hrun
      exact Or.inr ⟨q, g, rfl, hrun⟩

end Run

/-- Of acceptable calls, a query of either kind takes just those sequences in which searches come
before orders and orders before pages, an index query with its raw clauses before all of them and
its aggregates anywhere; so both kinds take the same searches, orders and pages, and answering a
request on a fresh query never comes too late for anything. -/
theorem calls_taken_in_order :
    (∀ store registry base,
      let fresh := RelationalQuery.start store registry base
      TakesInOrder TableQuery.write IndexCall.write fresh ∧
      RunsInTurn fresh RelationalQuery.stage) ∧
    (∀ index registry settings reader,
      let fresh := { IndexQuery.start index registry settings with reader }
      TakesInOrder IndexQuery.perform id fresh ∧ RunsInTurn fresh IndexQuery.stage) ∧
    ∀ store registry base index columns settings reader calls h g,
      let relational := RelationalQuery.start store registry base
      let onIndex := { IndexQuery.start index columns settings with reader }
      Acceptable TableQuery.write relational calls h → Acceptable TableQuery.write onIndex calls g →
        (Takes TableQuery.write relational calls h ↔ Takes TableQuery.write onIndex calls g) := by
  refine ⟨fun store registry base => ?_, fun index registry settings reader => ?_, ?_⟩
  · have hs := RelationalQuery.staged_start store registry base
    exact ⟨hs.takesInOrder, hs.runsInTurn⟩
  · have hs := IndexQuery.staged_start index registry settings reader
    exact ⟨hs.takesInOrder, (hs.restrict IndexCall.write).runsInTurn⟩
  · intro store registry base index columns settings reader calls h g relational onIndex hr hi
    have hrelational := RelationalQuery.staged_start store registry base
    have hindex := (IndexQuery.staged_start index columns settings reader).restrict IndexCall.write
    exact (hrelational.takes_iff hr).trans (hindex.takes_iff hi).symm

theorem calls_taken_in_order_posts :
    let fresh := RelationalQuery.start Blog.store Blog.registry Blog.posts
    let calls : List WriteCall :=
      [.search [("title", "lean")], .search [], .order none, .paginate .first]
    let onIndex := { IndexQuery.start Blog.index Blog.registry {} with reader := fresh.reader }
    let raw : List IndexCall :=
      [.filter .none, .aggregate "authors" Blog.byAuthor, .write (.search [("title", "lean")])]
    (Acceptable TableQuery.write fresh calls [] ∧ Takes TableQuery.write fresh calls []) ∧
    (∃ h', TableQuery.writeAll fresh (calls ++ [.search []]) [] =
      (.error (.contract "search" "called after Paginated stage"), h')) ∧
    (Acceptable IndexQuery.perform onIndex raw [] ∧ Takes IndexQuery.perform onIndex raw []) ∧
    ∃ h', IndexQuery.performAll onIndex (raw ++ [.filter .none]) [] =
      (.error (.contract "filter" "scope changed after Filtered stage"), h') := by
  intro fresh calls onIndex raw
  have hcalls : Acceptable TableQuery.write fresh calls [] := by
    refine .of_forall fun c hc g => ?_
    simp only [calls, List.mem_cons, List.not_mem_nil, or_false] at hc
    rcases hc with rfl | rfl | rfl | rfl <;> exact ⟨_, _, rfl⟩
  have hraw : Acceptable IndexQuery.perform onIndex raw [] := by
    refine .of_forall fun c hc g => ?_
    simp only [raw, List.mem_cons, List.not_mem_nil, or_false] at hc
    rcases hc with rfl | rfl | rfl
    · exact ⟨_, _, rfl⟩
    · obtain ⟨aggregates, body, h⟩ : ∃ aggregates body, onIndex.aggregate "authors" Blog.byAuthor =
          .ok { onIndex with aggregates, body } := IndexQuery.aggregate_of_compile rfl
      exact ⟨_, _, congrArg (·, g) h⟩
    · exact ⟨_, _, rfl⟩
  have hcallsOrder : InOrder (calls.map .write) := by
    simp [calls, InOrder, MayFollow, WriteCall.stage, Stage.rank]
  have hrawOrder : InOrder (raw.map id) := by simp [raw, InOrder, MayFollow]
  obtain ⟨⟨htakes, hstops, -⟩, -⟩ := calls_taken_in_order.1 Blog.store Blog.registry Blog.posts
  obtain ⟨⟨htakesRaw, hstopsRaw, -⟩, -⟩ :=
    calls_taken_in_order.2.1 Blog.index Blog.registry {} fresh.reader
  refine ⟨⟨hcalls, (htakes calls [] hcalls).mpr hcallsOrder⟩, ?_,
    ⟨hraw, (htakesRaw raw [] hraw).mpr hrawOrder⟩, ?_⟩
  · obtain ⟨q, h', earlier, -, hm, -, hlast, hstop⟩ := hstops calls (.search []) [] [] hcalls
      hcallsOrder (by simp [calls, InOrder, MayFollow, WriteCall.stage, Stage.rank])
    have hpage := hlast.latest (.paginate .first) (by simp [calls])
    cases earlier with
    | search terms | order spec => simp [WriteCall.stage, Stage.rank] at hpage
    | paginate w => exact ⟨h', hstop⟩
  · obtain ⟨q, h', earlier, -, hm, -, -, hstop⟩ :=
      hstopsRaw raw (.filter .none) [] [] hraw hrawOrder
      (by simp [raw, InOrder, MayFollow])
    obtain rfl : earlier = .search [("title", "lean")] := by simpa [raw] using hm
    exact ⟨h', hstop⟩

end TableView
