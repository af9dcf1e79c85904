import TableView.Proofs.Fields
import TableView.Proofs.Query.Execution

/-! Reading a query that has run. Its rows, total and aggregates were settled when it ran, and the
total without any filter is settled by the first answer to it. -/
namespace TableView

/-- One read of a query that has run. -/
inductive Reading
  | rows
  | totalEntries
  | unfilteredTotal
  | aggregateNames
  | aggregateFor (name : String)
deriving DecidableEq

/-- What a read yields. -/
inductive Reply
  | rows (rows : List Record)
  | totalEntries (n : Nat)
  | unfilteredTotal (answer : Except Error Nat)
  | aggregateNames (names : List String)
  | aggregateFor (answer : Except Error (Option Buckets))

/-- The answers to asking so many times: each error sends the next one to the backend again, the
first success stands for all that follow. -/
def Session.untilAnswered {α : Type} (x : Session α) :
    Nat → List Call → List (Except Error α) × List Call
  | 0, h => ([], h)
  | n + 1, h =>
    match x h with
    | (.ok a, h') => (List.replicate (n + 1) (.ok a), h')
    | (.error err, h') =>
      let (answers, h'') := untilAnswered x n h'
      (.error err :: answers, h'')

/-- A page shows what the reads of a query yield, and a total without any filter. -/
structure ResultPage.Shows (p : ResultPage) (e : ExecutedQuery) (unfiltered : Nat) : Prop where
  rows : p.rows = e.rows
  total : p.totalEntries = e.totalEntries
  unfiltered : p.unfilteredTotalEntries = unfiltered
  aggregates : ∀ name, e.aggregateFor name = .ok (p.aggregates.get? name)

section Gathered
variable {α : Type} {f : String → Except Error (Option α)} {names : List String}
  {found : List (Option (String × α))} {name : String} {err : Error}

/-- Under a name stands what was found for it, if anything. -/
theorem get?_of_mapM
    (hfound : names.mapM (fun name => do return (← f name).map fun a => (name, a)) = .ok found)
    (hname : name ∈ names ∨ f name = .ok none) :
    f name = .ok (Fields.get? (found.filterMap id) name) := by
  induction names generalizing found with
  | nil =>
    cases hfound
    exact hname.resolve_left List.not_mem_nil
  | cons other names ih =>
    rw [List.mapM_cons] at hfound
    obtain ⟨entry, hentry, hfound⟩ := ok_of_bind hfound
    obtain ⟨a?, hother, hentry⟩ := ok_of_bind hentry
    obtain ⟨rest, hrest, hfound⟩ := ok_of_bind hfound
    cases hentry
    cases hfound
    have hlater : other ≠ name → name ∈ names ∨ f name = .ok none := fun hne =>
      hname.imp_left fun hm => (List.mem_cons.mp hm).resolve_left (Ne.symm hne)
    by_cases heq : other = name
    · subst heq
      cases a? with
      | none => exact (ih hrest (Or.inr hother) :)
      | some a => simpa using hother
    · cases a? with
      | none => exact (ih hrest (hlater heq) :)
      | some a => simpa [heq] using ih hrest (hlater heq)

theorem mapM_eq_error
    (hfound : names.mapM (fun name => do return (← f name).map fun a => (name, a)) = .error err) :
    ∃ name ∈ names, f name = .error err := by
  induction names with
  | nil => cases hfound
  | cons other names ih =>
    rw [List.mapM_cons] at hfound
    obtain hentry | ⟨entry, -, hfound⟩ := error_of_bind hfound
    · obtain hother | ⟨a?, -, hentry⟩ := error_of_bind hentry
      · exact ⟨other, List.mem_cons_self, hother⟩
      · cases hentry
    · obtain hrest | ⟨rest, -, hfound⟩ := error_of_bind hfound
      · obtain ⟨name, hm, hname⟩ := ih hrest
        exact ⟨name, List.mem_cons_of_mem _ hm, hname⟩
      · cases hfound

end Gathered

namespace ExecutedQuery
variable {e e' : ExecutedQuery} {r : Reading} {readings : List Reading} {reply : Reply}
  {replies : List Reply} {answers : List (Except Error Nat)} {h h' : List Call} {n : Nat}
  {err : Error}

/-- What a read yields and what it leaves behind; an error leaves the query as it is. -/
def read (e : ExecutedQuery) (r : Reading) (h : List Call) : Reply × ExecutedQuery × List Call :=
  match r with
  | .rows => (.rows e.rows, e, h)
  | .totalEntries => (.totalEntries e.totalEntries, e, h)
  | .unfilteredTotal =>
    match e.unfilteredTotal h with
    | (.ok (n, e'), h') => (.unfilteredTotal (.ok n), e', h')
    | (.error err, h') => (.unfilteredTotal (.error err), e, h')
  | .aggregateNames => (.aggregateNames e.aggregates.keys, e, h)
  | .aggregateFor name => (.aggregateFor (e.aggregateFor name), e, h)

def readAll (e : ExecutedQuery) :
    List Reading → List Call → List Reply × ExecutedQuery × List Call
  | [], h => ([], e, h)
  | r :: readings, h =>
    let (reply, e', h') := e.read r h
    let (replies, e'', h'') := e'.readAll readings h'
    (reply :: replies, e'', h'')

/-- What a read yields that does not need the backend. -/
def settled (e : ExecutedQuery) : Reading → Option Reply
  | .rows => some (.rows e.rows)
  | .totalEntries => some (.totalEntries e.totalEntries)
  | .unfilteredTotal => none
  | .aggregateNames => some (.aggregateNames e.aggregates.keys)
  | .aggregateFor name => some (.aggregateFor (e.aggregateFor name))

/-- The replies to some reads are what is settled, and the given answers where the total without any
filter is read. -/
inductive Replies (e : ExecutedQuery) :
    List Reading → List (Except Error Nat) → List Reply → Prop
  | nil : Replies e [] [] []
  | settled {r : Reading} {reply : Reply} {readings : List Reading}
    {answers : List (Except Error Nat)} {replies : List Reply} (hr : e.settled r = some reply)
    (hrest : Replies e readings answers replies) :
    Replies e (r :: readings) answers (reply :: replies)
  | asked {answer : Except Error Nat} {readings : List Reading} {answers : List (Except Error Nat)}
    {replies : List Reply} (hrest : Replies e readings answers replies) :
    Replies e (.unfilteredTotal :: readings) (answer :: answers)
      (.unfilteredTotal answer :: replies)

/-- A page for an answer to the total without any filter shows that and what else is read; there is
none when that answer or some aggregate is an error. -/
def PageOf (e : ExecutedQuery) (answer : Except Error Nat) : Except Error ResultPage → Prop
  | .ok p => ∃ n, answer = .ok n ∧ p.Shows e n
  | .error err => answer = .error err ∨
    (∃ n, answer = .ok n) ∧ ∃ name ∈ e.aggregates.keys, e.aggregateFor name = .error err

/-- Whatever is read, and however often, the backend is only asked for the total without any filter,
and for that until a first answer. A page is made of what the reads yield. -/
structure Frozen (e : ExecutedQuery) (counting : Session Nat) : Prop where
  unasked : ∀ readings h replies e' h', e.readAll readings h = (replies, e', h') →
    ∀ r reply, e.settled r = some reply → e'.read r h' = (reply, e', h')
  replies : ∀ readings h answers h',
    counting.untilAnswered (readings.count .unfilteredTotal) h = (answers, h') →
      ∃ replies e', e.readAll readings h = (replies, e', h') ∧ e.Replies readings answers replies
  page : ∀ readings h replies e' h', e.readAll readings h = (replies, e', h') →
    ∃ answer e'' h'', e'.read .unfilteredTotal h' = (.unfilteredTotal answer, e'', h'') ∧
      (e'.page h').2 = h'' ∧ e.PageOf answer (e'.page h').1

theorem settled_eq_none : e.settled r = none ↔ r = .unfilteredTotal := by
  cases r <;> simp [settled]

/-- What is settled does not depend on what is known of the total without any filter. -/
theorem settled_known (e : ExecutedQuery) (known : Option Nat) :
    settled { e with unfiltered := known } = e.settled := by
  funext r
  cases r <;> rfl

theorem Replies.congr (he : e.settled = e'.settled) (hr : e.Replies readings answers replies) :
    e'.Replies readings answers replies := by
  induction hr with
  | nil => exact .nil
  | settled hr _ ih => exact .settled (he ▸ hr) ih
  | asked _ ih => exact .asked ih

theorem read_of_settled (hs : e.settled r = some reply) : e.read r h = (reply, e, h) := by
  cases r <;> cases hs <;> rfl

theorem read_of_known (he : e.unfiltered = some n) :
    e.read .unfilteredTotal h = (.unfilteredTotal (.ok n), e, h) := by
  simp only [read, unfilteredTotal_of_some he, Session.pure_apply]

theorem read_of_answer (he : e.unfiltered = none) (hn : e.countAll h = (.ok n, h')) :
    e.read .unfilteredTotal h =
      (.unfilteredTotal (.ok n), { e with unfiltered := some n }, h') := by
  simp only [read, unfilteredTotal_of_none he, Session.bind_of_ok hn, Session.pure_apply]

theorem read_of_error (he : e.unfiltered = none) (herr : e.countAll h = (.error err, h')) :
    e.read .unfilteredTotal h = (.unfilteredTotal (.error err), e, h') := by
  simp only [read, unfilteredTotal_of_none he, Session.bind_of_error herr]

theorem readAll_cons {e'' : ExecutedQuery} {h'' : List Call} (hr : e.read r h = (reply, e', h'))
    (hrest : e'.readAll readings h' = (replies, e'', h'')) :
    e.readAll (r :: readings) h = (reply :: replies, e'', h'') := by
  simp only [readAll, hr, hrest]

/-- Some reads, and what comes of them: their replies show the answers, and the calls end with those
that led to the answers. -/
def Yields (e : ExecutedQuery) (readings : List Reading) (h : List Call)
    (answers : List (Except Error Nat)) (h' : List Call) : Prop :=
  ∃ replies e', e.readAll readings h = (replies, e', h') ∧ e.Replies readings answers replies

theorem Yields.settled (hs : e.settled r = some reply) (hrest : e.Yields readings h answers h') :
    e.Yields (r :: readings) h answers h' := by
  obtain ⟨replies, e', hreplies, hr⟩ := hrest
  exact ⟨_, e', readAll_cons (read_of_settled hs) hreplies, .settled hs hr⟩

/-- Once the total without any filter is known, no read asks the backend. -/
theorem yields_of_known (he : e.unfiltered = some n) (readings : List Reading) (h : List Call) :
    e.Yields readings h (List.replicate (readings.count .unfilteredTotal) (.ok n)) h := by
  induction readings with
  | nil => exact ⟨[], e, rfl, .nil⟩
  | cons r readings ih =>
    cases hs : e.settled r with
    | some reply =>
      have hne : r ≠ .unfilteredTotal := fun hr => by simp [hr, settled] at hs
      rw [List.count_cons_of_ne hne]
      exact ih.settled hs
    | none =>
      obtain rfl := settled_eq_none.mp hs
      obtain ⟨replies, e', hreplies, hr⟩ := ih
      rw [List.count_cons_self, List.replicate_succ]
      exact ⟨_, e', readAll_cons (read_of_known he) hreplies, .asked hr⟩

theorem yields_of_unknown (he : e.unfiltered = none) (readings : List Reading) (h : List Call) :
    e.Yields readings h (e.countAll.untilAnswered (readings.count .unfilteredTotal) h).1
      (e.countAll.untilAnswered (readings.count .unfilteredTotal) h).2 := by
  induction readings generalizing h with
  | nil => exact ⟨[], e, rfl, .nil⟩
  | cons r readings ih =>
    cases hs : e.settled r with
    | some reply =>
      have hne : r ≠ .unfilteredTotal := fun hr => by simp [hr, settled] at hs
      rw [List.count_cons_of_ne hne]
      exact (ih h).settled hs
    | none =>
      obtain rfl := settled_eq_none.mp hs
      rw [List.count_cons_self]
      rcases hcount : e.countAll h with ⟨err | n, h'⟩
      · simp only [Session.untilAnswered, hcount]
        obtain ⟨replies, e', hreplies, hr⟩ := ih h'
        exact ⟨_, e', readAll_cons (read_of_error he hcount) hreplies, .asked hr⟩
      · simp only [Session.untilAnswered, hcount]
        obtain ⟨replies, e', hreplies, hr⟩ :=
          yields_of_known (e := { e with unfiltered := some n }) rfl readings h'
        exact ⟨_, e', readAll_cons (read_of_answer he hcount) hreplies,
          .asked (hr.congr (e.settled_known (some n)))⟩

/-- Reading changes nothing but what is known of the total without any filter. -/
theorem read_eq (hr : e.read r h = (reply, e', h')) :
    ∃ known, e' = { e with unfiltered := known } := by
  cases hs : e.settled r with
  | some settled =>
    rw [read_of_settled hs] at hr
    cases hr
    exact ⟨e.unfiltered, rfl⟩
  | none =>
    obtain rfl := settled_eq_none.mp hs
    cases he : e.unfiltered with
    | some n =>
      rw [read_of_known he] at hr
      cases hr
      exact ⟨e.unfiltered, rfl⟩
    | none =>
      rcases hcount : e.countAll h with ⟨err | n, g⟩
      · rw [read_of_error he hcount] at hr
        cases hr
        exact ⟨e.unfiltered, rfl⟩
      · rw [read_of_answer he hcount] at hr
        cases hr
        exact ⟨some n, rfl⟩

theorem readAll_eq (hr : e.readAll readings h = (replies, e', h')) :
    ∃ known, e' = { e with unfiltered := known } := by
  induction readings generalizing e h replies with
  | nil =>
    cases hr
    exact ⟨_, rfl⟩
  | cons r readings ih =>
    rcases hfirst : e.read r h with ⟨reply, next, g⟩
    obtain ⟨known, rfl⟩ := read_eq hfirst
    rcases hrest : ({ e with unfiltered := known } : ExecutedQuery).readAll readings g
      with ⟨rest, e'', h''⟩
    rw [readAll_cons hfirst hrest] at hr
    cases hr
    obtain ⟨later, rfl⟩ := ih hrest
    exact ⟨later, rfl⟩

/-- The aggregates of a page are those that are read name by name. -/
theorem aggregateFor_of_allAggregates {fields : Fields Buckets}
    (hall : e.allAggregates = .ok fields) (name : String) :
    e.aggregateFor name = .ok (fields.get? name) := by
  obtain ⟨found, hfound, hall⟩ := ok_of_bind hall
  cases hall
  refine get?_of_mapM hfound ?_
  cases hname : e.aggregates.get? name with
  | none => exact Or.inr (by rw [aggregateFor, hname])
  | some spec => exact Or.inl (List.mem_map.mpr ⟨_, Fields.mem_of_get? hname, rfl⟩)

theorem exists_of_allAggregates_eq_error (hall : e.allAggregates = .error err) :
    ∃ name ∈ e.aggregates.keys, e.aggregateFor name = .error err := by
  obtain hfound | ⟨found, -, hall⟩ := error_of_bind hall
  · exact mapM_eq_error hfound
  · cases hall

/-- A page goes by the total without any filter, as a read of it would. -/
theorem page_of_read {answer : Except Error Nat}
    (hr : e.read .unfilteredTotal h = (.unfilteredTotal answer, e', h')) :
    e.page h = (answer.bind fun n => e.allAggregates.map fun aggregates =>
      { rows := e.rows, totalEntries := e.totalEntries, unfilteredTotalEntries := n, aggregates },
      h') := by
  rcases hasked : e.unfilteredTotal h with ⟨err | ⟨n, later⟩, g⟩
  · simp only [read, hasked] at hr
    cases hr
    exact Session.bind_of_error hasked
  · simp only [read, hasked] at hr
    cases hr
    refine (Session.bind_of_ok hasked).trans ?_
    show (Session.ofExcept e.allAggregates >>= _) _ = _
    cases e.allAggregates <;> rfl

theorem pageOf (e : ExecutedQuery) (answer : Except Error Nat) :
    e.PageOf answer (answer.bind fun n => e.allAggregates.map fun aggregates =>
      { rows := e.rows, totalEntries := e.totalEntries, unfilteredTotalEntries := n,
        aggregates }) := by
  cases answer with
  | error err => exact Or.inl rfl
  | ok n =>
    simp only [Except.bind]
    cases hall : e.allAggregates with
    | ok fields => exact ⟨n, rfl, rfl, rfl, rfl, aggregateFor_of_allAggregates hall⟩
    | error err => exact Or.inr ⟨⟨n, rfl⟩, exists_of_allAggregates_eq_error hall⟩

theorem exists_read_unfilteredTotal (e : ExecutedQuery) (h : List Call) :
    ∃ answer e' h', e.read .unfilteredTotal h = (.unfilteredTotal answer, e', h') := by
  unfold read
  rcases e.unfilteredTotal h with ⟨err | ⟨n, e'⟩, h'⟩ <;> exact ⟨_, _, _, rfl⟩

theorem frozen (he : e.unfiltered = none) : e.Frozen e.countAll where
  unasked := by
    intro readings h replies later h' hreadings r reply hs
    obtain ⟨known, rfl⟩ := readAll_eq hreadings
    exact read_of_settled (e.settled_known known ▸ hs)
  replies := by
    intro readings h answers h' hasked
    have hyields := yields_of_unknown he readings h
    rwa [hasked] at hyields
  page := by
    intro readings h replies later h' hreadings
    obtain ⟨known, rfl⟩ := readAll_eq hreadings
    obtain ⟨answer, e'', h'', hr⟩ := exists_read_unfilteredTotal { e with unfiltered := known } h'
    refine ⟨answer, e'', h'', hr, ?_⟩
    rw [page_of_read hr]
    exact ⟨rfl, e.pageOf answer⟩

end ExecutedQuery

/-- Executing a query makes one request for its page, and in a record store one sizing. All reads
that follow yield what it settled, and only the total without any filter is asked for, until a first
answer. -/
theorem execution_settles_reads :
    (∀ (q : RelationalQuery) h e h', q.execute h = (.ok e, h') →
      let asked := h ++ [.select q.relation.select]
      let filtered := q.relation.unpaged
      let all := q.base.unpaged
      q.store.select h q.relation.select = .ok e.rows ∧
      q.store.sized filtered asked = .ok e.totalEntries ∧
      h' = asked ++ q.store.sizing filtered asked ∧
      e.Frozen fun g => (q.store.sized all g, g ++ q.store.sizing all g)) ∧
    ∀ (q : IndexQuery) h e h', q.execute h = (.ok e, h') →
      (∃ response, q.index.search h q.body.toJson = .ok response ∧
        IndexQuery.hitTotal response = .ok e.totalEntries ∧
        IndexQuery.hitRows response = e.rows) ∧
      h' = h ++ [.search q.body.toJson] ∧
      e.Frozen fun g => ((q.index.search g Index.Body.countAll).bind IndexQuery.hitTotal,
        g ++ [.search Index.Body.countAll]) := by
  refine ⟨?relational, ?index⟩
  case relational =>
    intro q h e h' he
    obtain ⟨hunknown, hcount⟩ := RelationalQuery.execute_countAll he
    obtain ⟨rows, n, hrows, hsized, hcalls, rfl⟩ := RelationalQuery.execute_iff.mp he
    exact ⟨hrows, hsized, hcalls, hcount ▸ ExecutedQuery.frozen hunknown⟩
  case index =>
    intro q h e h' he
    obtain ⟨hunknown, hcount⟩ := IndexQuery.execute_countAll he
    obtain ⟨response, n, hresponse, htotal, hcalls, rfl⟩ := IndexQuery.execute_iff.mp he
    exact ⟨⟨response, hresponse, htotal, rfl⟩, hcalls, hcount ▸ ExecutedQuery.frozen hunknown⟩

namespace Blog

/-- It is out of reach for one moment, and answers each time with the number of calls before. -/
def restless : SearchIndex where
  search h _ :=
    if h.length = 1 then .error (.connectionFailed "search index" "refused")
    else .ok (.obj [("hits", .obj [("total", .int h.length)])])
  searchField _ := none

/-- Its answers also change from call to call. -/
def restlessStore : RecordStore := { store with
  size h _ :=
    if h.length = 2 then .error (.connectionFailed "postgres" "refused")
    else .ok (.exact h.length) }

/-- The total without any filter is read three times, with something else in between. -/
def readings : List Reading := [.unfilteredTotal, .rows, .unfilteredTotal, .unfilteredTotal]

end Blog

theorem execution_settles_reads_restless :
    (∃ e h', (RelationalQuery.start Blog.restlessStore Blog.registry Blog.posts).execute [] =
        (.ok e, h') ∧ h'.length = 2 ∧ e.totalEntries = 1 ∧
      ∃ replies e' h'', e.readAll Blog.readings h' = (replies, e', h'') ∧ h''.length = 4 ∧
        e.Replies Blog.readings
          [.error (.connectionFailed "postgres" "refused"), .ok 3, .ok 3] replies) ∧
    ∃ e h', (IndexQuery.start Blog.restless Blog.registry {}).execute [] = (.ok e, h') ∧
      h'.length = 1 ∧ e.totalEntries = 0 ∧
      ∃ replies e' h'', e.readAll Blog.readings h' = (replies, e', h'') ∧ h''.length = 3 ∧
        e.Replies Blog.readings
          [.error (.connectionFailed "search index" "refused"), .ok 2, .ok 2] replies := by
  obtain ⟨hrelational, hindex⟩ := execution_settles_reads
  constructor
  · refine ⟨_, _, rfl, rfl, rfl, ?_⟩
    obtain ⟨-, -, -, hfrozen⟩ := hrelational
      (RelationalQuery.start Blog.restlessStore Blog.registry Blog.posts) [] _ _ rfl
    obtain ⟨replies, e', hread, hreplies⟩ := hfrozen.replies Blog.readings _ _ _ rfl
    exact ⟨replies, e', _, hread, rfl, hreplies⟩
  · refine ⟨_, _, rfl, rfl, rfl, ?_⟩
    obtain ⟨-, -, hfrozen⟩ := hindex (IndexQuery.start Blog.restless Blog.registry {}) [] _ _ rfl
    obtain ⟨replies, e', hread, hreplies⟩ := hfrozen.replies Blog.readings _ _ _ rfl
    exact ⟨replies, e', _, hread, rfl, hreplies⟩

end TableView
