import Mathlib.Algebra.Order.Floor.Div
import TableView.Proofs.Query.CallOrder

/-! Pages of a table view. Pages of one length tell all rows apart, the window of a request keeps to
the settings' bounds, and queries of either kind ask for the rows of that window and no others. -/
namespace TableView
open Sql (Fragment Relation)
open Session (Keeps)
open TableQuery (execute run write writeAll)

namespace PageWindow
variable {w : PageWindow} {page perPage : UInt32} {j : Json} {k : Nat}

/-- The window shows the row that has so many others before it. -/
def Shows (w : PageWindow) (k : Nat) : Prop := w.offset ≤ k ∧ k < w.offset + w.perPage.toNat

/-- There is such a page, and it has at least one row. -/
structure Valid (w : PageWindow) : Prop where
  page : 1 ≤ w.page
  perPage : 1 ≤ w.perPage

theorem one_le_max (n : UInt32) : 1 ≤ max n 1 := by
  rw [UInt32.le_iff_toNat_le, UInt32.toNat_max]
  exact Nat.le_max_right _ _

theorem valid_of (page perPage : UInt32) : (of page perPage).Valid :=
  ⟨one_le_max page, one_le_max perPage⟩

/-- A window that is read from JSON is also one of those that are built. -/
theorem exists_of_ofJson? (hw : ofJson? j = some w) : ∃ page perPage, w = of page perPage := by
  obtain ⟨ms, -, hw⟩ := Option.bind_eq_some_iff.mp hw
  obtain ⟨page, -, hw⟩ := Option.bind_eq_some_iff.mp hw
  obtain ⟨perPage, -, hw⟩ := Option.bind_eq_some_iff.mp hw
  exact ⟨page, perPage, (Option.some.inj hw).symm⟩

theorem offset_of (page perPage : UInt32) :
    (of page perPage).offset = (max page.toNat 1 - 1) * max perPage.toNat 1 := by
  simp only [offset, of, UInt32.toNat_max]
  rfl

/-- Nothing is lost when an offset is computed in 64 bits. -/
theorem offset_lt (w : PageWindow) : w.offset < UInt64.size := by
  have hpage : w.page.toNat - 1 ≤ UInt32.size := (Nat.sub_le _ _).trans w.page.toNat_lt_size.le
  have hoffset := Nat.mul_lt_mul_of_le_of_lt hpage w.perPage.toNat_lt_size (by decide)
  exact hoffset.trans_le (by decide)

/-- Counted from one, the page that shows a row is that of the whole pages before the row. -/
theorem shows_of_iff (hpage : 1 ≤ page.toNat) :
    (of page perPage).Shows k ↔ page.toNat = k / max perPage.toNat 1 + 1 := by
  have hlength : (of page perPage).perPage.toNat = max perPage.toNat 1 := UInt32.toNat_max _ _
  have hdiv := Nat.div_eq_iff (x := k) (y := page.toNat - 1) (by omega : 0 < max perPage.toNat 1)
  rw [Shows, offset_of, hlength, Nat.max_eq_left hpage]
  omega

end PageWindow

/-- Pages of one length that show so many rows: each row on one page, no page empty, all but the
last one full, and nothing left for the pages that come after. -/
structure Partition (total : Nat) (perPage : UInt32) (pages : Nat) : Prop where
  one : ∀ k < total, ∃! page : UInt32, 1 ≤ page.toNat ∧ page.toNat ≤ pages ∧
    (PageWindow.of page perPage).Shows k
  begun : ∀ page : UInt32, 1 ≤ page.toNat → page.toNat ≤ pages →
    (PageWindow.of page perPage).offset < total
  full : ∀ page : UInt32, 1 ≤ page.toNat → page.toNat < pages →
    (PageWindow.of page perPage).offset + (PageWindow.of page perPage).perPage.toNat ≤ total
  past : ∀ page : UInt32, pages < page.toNat → total ≤ (PageWindow.of page perPage).offset

namespace ResultPage
variable {p : ResultPage} {perPage : UInt32} {n : Nat}

theorem totalPages_le_iff :
    p.totalPages perPage ≤ n ↔ p.totalEntries ≤ n * max perPage.toNat 1 := by
  rw [totalPages, ← Nat.ceilDiv_eq_add_pred_div, ceilDiv_le_iff_le_mul (by omega), Nat.mul_comm]

theorem lt_totalPages_iff :
    n < p.totalPages perPage ↔ n * max perPage.toNat 1 < p.totalEntries := by
  rw [← not_le, totalPages_le_iff, not_le]

theorem partition (hpages : p.totalPages perPage < UInt32.size) :
    Partition p.totalEntries perPage (p.totalPages perPage) where
  one := by
    intro k hk
    have hlast : k / max perPage.toNat 1 + 1 ≤ p.totalPages perPage :=
      lt_totalPages_iff.mpr ((Nat.div_mul_le_self _ _).trans_lt hk)
    have hpage : (UInt32.ofNat (k / max perPage.toNat 1 + 1)).toNat = k / max perPage.toNat 1 + 1 :=
      UInt32.toNat_ofNat_of_lt' (hlast.trans_lt hpages)
    have hfirst := (Nat.le_add_left 1 _).trans_eq hpage.symm
    refine ⟨_, ⟨hfirst, hpage.trans_le hlast, (PageWindow.shows_of_iff hfirst).mpr hpage⟩, ?_⟩
    rintro page ⟨hfirst, -, hshows⟩
    rw [← UInt32.toNat_inj, (PageWindow.shows_of_iff hfirst).mp hshows, hpage]
  begun := by
    intro page hfirst hlast
    rw [PageWindow.offset_of, ← lt_totalPages_iff]
    omega
  full := by
    intro page hfirst hlast
    have hnext := (lt_totalPages_iff.mp hlast).le
    have hlength : (PageWindow.of page perPage).perPage.toNat = max perPage.toNat 1 :=
      UInt32.toNat_max _ _
    rw [PageWindow.offset_of, hlength, ← Nat.succ_mul]
    rwa [show (max page.toNat 1 - 1).succ = page.toNat by omega]
  past := by
    intro page hlater
    rw [PageWindow.offset_of, ← totalPages_le_iff]
    omega

end ResultPage

theorem Request.window_perPage_le (r : Request) (s : Settings) :
    (r.window s).perPage ≤ max 1 s.maxPerPage := by
  simp only [window, PageWindow.of, Settings.perPage, UInt32.le_iff_toNat_le, UInt32.toNat_max,
    UInt32.toNat_min]
  have hone : (1 : UInt32).toNat = 1 := rfl
  omega

namespace PageWindow

/-- A statement ends with the page of a window. -/
def Limits (w : PageWindow) (f : Fragment) : Prop := ∃ whole,
  f.sql = whole ++ " LIMIT " ++ toString w.perPage.toNat ++ " OFFSET " ++ toString w.offset

/-- A search asks for the page of a window. -/
def Slices (w : PageWindow) (body : Json) : Prop :=
  body.get? "from" = some (.nat w.offset) ∧ body.get? "size" = some (.nat w.perPage.toNat)

/-- A call selects rows of a window only, or counts. -/
def Paged (w : PageWindow) : Call → Prop
  | .select f => w.Limits f
  | .search body => body = Index.Body.countAll ∨ w.Slices body
  | _ => True

theorem paged_of_lookup (w : PageWindow) {call : Call} (hcall : call.IsLookup) : w.Paged call := by
  cases call with
  | columns _ | pluckIds _ => trivial
  | select _ | size _ | count _ | search _ => cases hcall

end PageWindow

section Run
variable {Q : Type} [TableQuery Q] {P : Call → Prop} {I J : Q → Prop} {R : List Record → Prop}
  {fresh : Q} {r : Request} {s : Settings} {w : PageWindow}

theorem ExecutedQuery.page_keeps {e : ExecutedQuery} (hcount : Keeps P (fun _ => True) e.countAll)
    (hrows : R e.rows) : Keeps P (fun p => R p.rows) e.page := by
  have htotal : Keeps P (fun _ => True) e.unfilteredTotal := by
    unfold unfilteredTotal
    split
    · exact .pure trivial
    · exact .bind hcount fun _ _ => .pure trivial
  refine .bind htotal fun _ _ => ?_
  exact .bind (.ofExcept fun _ _ => trivial) fun _ (_ : True) => .pure hrows

/-- What holds of the calls of a request, up to the page, and of the rows that are selected then. -/
theorem TableQuery.run_keeps (hfresh : J fresh)
    (hwrite : ∀ q call, J q → Keeps P J (write q call))
    (hpaginate : ∀ q, J q → Keeps P I (paginate q (r.window s)))
    (hexecute : ∀ q, I q →
      Keeps P (fun e => Keeps P (fun _ => True) e.countAll ∧ R e.rows) (execute q)) :
    Keeps P (fun p => R p.rows) (run fresh r s) := by
  refine .bind (hwrite fresh (.search r.searchTerms) hfresh) fun q hq => ?_
  refine .bind (hwrite q (.order r.order) hq) fun q hq => ?_
  refine .bind (hpaginate q hq) fun q hq => ?_
  exact .bind (hexecute q hq) fun e ⟨hcount, hrows⟩ => e.page_keeps hcount hrows

end Run

theorem Sql.Relation.select_of_page {r : Relation} {limit offset : Nat}
    (hlimit : r.limit = some limit) (hoffset : r.offset = some offset) :
    r.select.sql = { r with limit := none, offset := none }.select.sql ++
      " LIMIT " ++ toString limit ++ " OFFSET " ++ toString offset := by
  simp only [select, hlimit, hoffset, pushNumber, Fragment.pushText, String.append_assoc]
  rfl

theorem Index.Body.get?_toJson_of_page {b : Index.Body} {size skip : Nat}
    (hsize : b.size = some size) (hskip : b.skip = some skip) :
    b.toJson.get? "from" = some (.nat skip) ∧ b.toJson.get? "size" = some (.nat size) := by
  cases hb : b.aggregations <;> simp [toJson, Json.get?, hb, hsize, hskip]

namespace RelationalQuery
variable {w : PageWindow} {q : RelationalQuery}

/-- The relation that is written ends with the page of a window. -/
structure Paged (w : PageWindow) (q : RelationalQuery) : Prop where
  limit : q.relation.limit = some w.perPage.toNat
  offset : q.relation.offset = some w.offset

theorem Paged.limits (hq : q.Paged w) : w.Limits q.relation.select :=
  ⟨_, Relation.select_of_page hq.limit hq.offset⟩

/-- A query may be given a page at any time. -/
theorem paginate_eq (q : RelationalQuery) (w : PageWindow) : ∃ q', q.paginate w = .ok q' ∧
    q'.store = q.store ∧ q'.Paged w := by
  have hturn : q.stage.advance "paginate" .paginated = .ok .paginated := by cases q.stage <;> rfl
  rw [paginate, hturn]
  exact ⟨_, rfl, rfl, rfl, rfl⟩

theorem paginate_keeps (q : RelationalQuery) (w : PageWindow) :
    Keeps w.Paged (fun q' => q'.store = q.store ∧ q'.Paged w) (TableQuery.paginate q w) := by
  obtain ⟨q', hq', hpaged⟩ := q.paginate_eq w
  refine .ofExcept fun q'' hq'' => ?_
  cases hq'.symm.trans hq''
  exact hpaged

theorem total_keeps (store : RecordStore) (r : Relation) :
    Keeps w.Paged (fun _ => True) (total store r) := by
  intro h
  rw [total_apply]
  refine ⟨⟨_, rfl, ?_⟩, fun _ _ => trivial⟩
  unfold RecordStore.sizing
  split <;> simp [PageWindow.Paged]

theorem Paged.execute_keeps (hq : q.Paged w) :
    Keeps w.Paged (fun e => Keeps w.Paged (fun _ => True) e.countAll ∧
      ∃ g f, q.store.select g f = .ok e.rows ∧ w.Limits f) q.execute := by
  have hselect : Keeps w.Paged (fun rows => ∃ g f, q.store.select g f = .ok rows ∧ w.Limits f)
      (Session.select q.store q.relation.select) :=
    .ask hq.limits fun g rows hrows => ⟨g, _, hrows, hq.limits⟩
  refine .bind hselect fun rows hrows => ?_
  exact .bind (total_keeps _ _) fun n _ => .pure ⟨total_keeps _ _, hrows⟩

/-- A request selects the rows of its window and no others, and shows what comes of it. -/
theorem run_paged (store : RecordStore) (registry : Registry) (base : Relation) (r : Request)
    (s : Settings) :
    let w := r.window s
    Keeps w.Paged (fun p => ∃ g f, store.select g f = .ok p.rows ∧ w.Limits f)
      (run (start store registry base) r s) := by
  intro w
  refine TableQuery.run_keeps (R := fun rows => ∃ g f, store.select g f = .ok rows ∧ w.Limits f)
    (J := fun q => q.store = store) (I := fun q => q.store = store ∧ q.Paged w) rfl ?_ ?_ ?_
  · rintro q call rfl
    exact (q.write_lookups call).weaken fun _ => w.paged_of_lookup
  · rintro q rfl
    exact q.paginate_keeps w
  · rintro q ⟨rfl, hpaged⟩
    exact hpaged.execute_keeps

end RelationalQuery

namespace IndexQuery
variable {w : PageWindow} {q : IndexQuery}

/-- The body that is written asks for the page of a window. -/
structure Paged (w : PageWindow) (q : IndexQuery) : Prop where
  size : q.body.size = some w.perPage.toNat
  skip : q.body.skip = some w.offset

theorem Paged.slices (hq : q.Paged w) : w.Slices q.body.toJson :=
  Index.Body.get?_toJson_of_page hq.size hq.skip

theorem paginate_eq (q : IndexQuery) (w : PageWindow) : ∃ q', q.paginate w = .ok q' ∧
    q'.index = q.index ∧ q'.Paged w := by
  have hturn : q.stage.advance "paginate" .paginated = .ok .paginated := by cases q.stage <;> rfl
  rw [paginate, hturn]
  exact ⟨_, rfl, rfl, rfl, rfl⟩

theorem paginate_keeps (q : IndexQuery) (w : PageWindow) :
    Keeps w.Paged (fun q' => q'.index = q.index ∧ q'.Paged w) (TableQuery.paginate q w) := by
  obtain ⟨q', hq', hpaged⟩ := q.paginate_eq w
  refine .ofExcept fun q'' hq'' => ?_
  cases hq'.symm.trans hq''
  exact hpaged

theorem countAll_keeps (index : SearchIndex) : Keeps w.Paged (fun _ => True) (countAll index) := by
  intro h
  rw [countAll_apply]
  exact ⟨⟨_, rfl, by simp [PageWindow.Paged]⟩, fun _ _ => trivial⟩

theorem Paged.execute_keeps (hq : q.Paged w) :
    Keeps w.Paged (fun e => Keeps w.Paged (fun _ => True) e.countAll ∧
      ∃ g body response, q.index.search g body = .ok response ∧ e.rows = hitRows response ∧
        w.Slices body) q.execute := by
  have hsearch : Keeps w.Paged (fun response => ∃ g body, q.index.search g body = .ok response ∧
      w.Slices body) (Session.search q.index q.body.toJson) :=
    .ask (Or.inr hq.slices) fun g response hresponse => ⟨g, _, hresponse, hq.slices⟩
  refine .bind hsearch fun response ⟨g, body, hresponse, hbody⟩ => ?_
  refine .bind (.ofExcept fun _ _ => trivial) fun n (_ : True) => .pure ?_
  exact ⟨countAll_keeps _, g, body, response, hresponse, rfl, hbody⟩

theorem run_paged (index : SearchIndex) (registry : Registry) (settings : Settings)
    (reader : TermReader) (r : Request) (s : Settings) :
    let w := r.window s
    Keeps w.Paged (fun p => ∃ g body response, index.search g body = .ok response ∧
        p.rows = hitRows response ∧ w.Slices body)
      (run { start index registry settings with reader } r s) := by
  intro w
  refine TableQuery.run_keeps (R := fun rows => ∃ g body response,
      index.search g body = .ok response ∧ rows = hitRows response ∧ w.Slices body)
    (J := fun q => q.index = index) (I := fun q => q.index = index ∧ q.Paged w) rfl ?_ ?_ ?_
  · rintro q call rfl
    exact (q.write_lookups call).weaken fun _ => w.paged_of_lookup
  · rintro q rfl
    exact q.paginate_keeps w
  · rintro q ⟨rfl, hpaged⟩
    exact hpaged.execute_keeps

end IndexQuery

/-- Pages of one length tell the rows of a result apart, and their offsets fit 64 bits. The window
of a request keeps to the settings' bounds, and one that is read from JSON is one that could be
built. Both kinds of query turn a window into the same two numbers, and rows that a request shows
come of no statement or search but for its window. -/
theorem pages_partition_rows :
    (∀ page perPage, (PageWindow.of page perPage).offset =
        (max page.toNat 1 - 1) * max perPage.toNat 1 ∧
      (PageWindow.of page perPage).offset < UInt64.size) ∧
    (∀ (p : ResultPage) perPage, p.totalPages perPage < UInt32.size →
      Partition p.totalEntries perPage (p.totalPages perPage)) ∧
    (∀ (r : Request) s, (r.window s).Valid ∧ (r.window s).perPage ≤ max 1 s.maxPerPage) ∧
    (∀ j w, PageWindow.ofJson? j = some w → w.Valid ∧ ∃ page perPage, w = .of page perPage) ∧
    (∀ (q : RelationalQuery) w, ∃ q', q.paginate w = .ok q' ∧ q'.Paged w ∧
      w.Limits q'.relation.select) ∧
    (∀ (i : IndexQuery) w, ∃ i', i.paginate w = .ok i' ∧ i'.Paged w ∧ w.Slices i'.body.toJson) ∧
    (∀ store registry base (r : Request) s,
      let w := r.window s
      Keeps w.Paged (fun p => ∃ g f, store.select g f = .ok p.rows ∧ w.Limits f)
        (run (RelationalQuery.start store registry base) r s)) ∧
    ∀ index registry settings reader (r : Request) s,
      let w := r.window s
      Keeps w.Paged (fun p => ∃ g body response, index.search g body = .ok response ∧
          p.rows = IndexQuery.hitRows response ∧ w.Slices body)
        (run { IndexQuery.start index registry settings with reader } r s) := by
  refine ⟨?offsets, ?pages, ?window, ?json, ?relational, ?index, ?runs, ?searches⟩
  case offsets =>
    exact fun page perPage => ⟨PageWindow.offset_of page perPage, PageWindow.offset_lt _⟩
  case pages => exact fun p perPage => ResultPage.partition
  case window => exact fun r s => ⟨PageWindow.valid_of _ _, r.window_perPage_le s⟩
  case json =>
    intro j w hw
    obtain ⟨page, perPage, rfl⟩ := PageWindow.exists_of_ofJson? hw
    exact ⟨PageWindow.valid_of _ _, page, perPage, rfl⟩
  case relational =>
    intro q w
    obtain ⟨q', hq', -, hpaged⟩ := q.paginate_eq w
    exact ⟨q', hq', hpaged, hpaged.limits⟩
  case index =>
    intro i w
    obtain ⟨i', hi', -, hpaged⟩ := i.paginate_eq w
    exact ⟨i', hi', hpaged, hpaged.slices⟩
  case runs => exact RelationalQuery.run_paged
  case searches => exact IndexQuery.run_paged

theorem pages_partition_rows_posts :
    let p : ResultPage :=
      { rows := [], totalEntries := 25, unfilteredTotalEntries := 25, aggregates := [] }
    let j : Json := .obj [("page", .nat 0), ("per_page", .nat 10)]
    let fresh := RelationalQuery.start Blog.store Blog.registry Blog.posts
    let r : Request := { searchTerms := [("title", "lean")], page := some 3, perPage := some 10 }
    (p.totalPages 10 = 3 ∧ Partition p.totalEntries 10 3) ∧
    (PageWindow.ofJson? j = some ⟨1, 10⟩ ∧ PageWindow.Valid ⟨1, 10⟩) ∧
    ∃ shown h' g f, run fresh r {} [] = (.ok shown, h') ∧
      Blog.store.select g f = .ok shown.rows ∧ PageWindow.Limits ⟨3, 10⟩ f := by
  intro p j fresh r
  obtain ⟨-, hpages, -, hjson, -, -, hrun, -⟩ := pages_partition_rows
  have hthree : p.totalPages 10 = 3 := by decide
  have hpartition := hpages p 10 (by rw [hthree]; decide)
  rw [hthree] at hpartition
  have hread : PageWindow.ofJson? j = some ⟨1, 10⟩ := rfl
  refine ⟨⟨hthree, hpartition⟩, ⟨hread, (hjson j _ hread).1⟩, ?_⟩
  obtain ⟨shown, h', hshown⟩ : ∃ shown h', run fresh r {} [] = (.ok shown, h') := ⟨_, _, rfl⟩
  obtain ⟨g, f, hselect, hlimits⟩ :=
    (hrun Blog.store Blog.registry Blog.posts r {} []).2 shown (congrArg Prod.fst hshown)
  exact ⟨shown, h', g, f, hshown, hselect, hlimits⟩

end TableView
