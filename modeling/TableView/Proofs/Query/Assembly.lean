import TableView.Proofs.Aggregate.Slots
import TableView.Proofs.Index.Addressed
import TableView.Proofs.Query.FailClosed
import TableView.Proofs.Query.Narrowing

/-! The body of a search is put together from all clauses that calls have added: each is in its
group once, in the order of the calls, and conditions on nested documents are about these only. -/
namespace TableView
open Index (Body Clause Group Placed addressed)

namespace IndexQuery
variable {q q' : IndexQuery} {call : IndexCall} {calls : List IndexCall} {h h' : List Call}
  {log added : List (Group × Clause)} {b : Body} {path : String}

/-- A clause on a column, with the group it goes into. -/
def grouped (t : Column × Placed) : Group × Clause := (groupOf t.1 t.2, t.2.clause)

/-- The clauses of one group, in the order in which they were added. -/
def inGroup (group : Group) (log : List (Group × Clause)) : List Clause :=
  (log.filter (·.1 = group)).map Prod.snd

/-- What a call adds: a clause that is given goes where the call says, and a search adds one clause
for each term that it keeps. -/
inductive Adds (q : IndexQuery) : IndexCall → List Call → List (Group × Clause) → List Call → Prop
  | filter (c : Clause) (h : List Call) : Adds q (.filter c) h [(.filter, c)] h
  | query (c : Clause) (h : List Call) : Adds q (.query c) h [(.query, c)] h
  | search {terms : List SearchTerm} {h h' : List Call} {kept : List (Column × Placed)}
    (hkept : Keeping q.registry q.clause terms h kept h') :
    Adds q (.write (.search terms)) h (kept.map grouped) h'
  | order (spec : Option OrderSpec) (h : List Call) : Adds q (.write (.order spec)) h [] h
  | paginate (w : PageWindow) (h : List Call) : Adds q (.write (.paginate w)) h [] h
  | aggregate (name : String) (spec : AggregateSpec) (h : List Call) :
    Adds q (.aggregate name spec) h [] h

/-- What calls add one after the other. -/
inductive AddsAll (q : IndexQuery) :
    List IndexCall → List Call → List (Group × Clause) → List Call → Prop
  | nil (h : List Call) : AddsAll q [] h [] h
  | cons {call : IndexCall} {calls : List IndexCall} {h g h' : List Call}
    {added later : List (Group × Clause)} (hadds : Adds q call h added g)
    (hrest : AddsAll q calls g later h') : AddsAll q (call :: calls) h (added ++ later) h'

/-- The groups of a body hold what was added to them, and there are groups of nested documents only
for what was added. -/
structure Holds (b : Body) (log : List (Group × Clause)) : Prop where
  clauses : ∀ group, b.clauses group = inGroup group log
  paths : ∀ path, b.nested.contains path = true ↔ ∃ c, (Group.nested path, c) ∈ log
  ascending : b.nested.Ascending

theorem inGroup_append (group : Group) (log added : List (Group × Clause)) :
    inGroup group (log ++ added) = inGroup group log ++ inGroup group added := by
  simp [inGroup]

theorem ascending_pushTo (hb : b.nested.Ascending) (group : Group) (c : Clause) :
    (b.pushTo group c).nested.Ascending := by
  cases group with
  | query | filter => exact hb
  | nested path => exact hb.insert _ _

theorem Holds.pushTo (hb : Holds b log) (group : Group) (c : Clause) :
    Holds (b.pushTo group c) (log ++ [(group, c)]) where
  clauses other := by
    rw [Body.clauses_pushTo, hb.clauses, inGroup_append]
    by_cases hgroup : group = other <;> simp [inGroup, hgroup]
  paths path := by
    rw [contains_pushTo, hb.paths]
    simp [exists_or, eq_comm]
  ascending := ascending_pushTo hb.ascending group c

theorem Holds.foldl_push (hb : Holds b log) (kept : List (Column × Placed)) :
    Holds (kept.foldl push b) (log ++ kept.map grouped) := by
  induction kept generalizing b log with
  | nil => simpa using hb
  | cons t kept ih =>
    rw [List.foldl_cons, push_eq_pushTo, List.map_cons, List.append_cons]
    exact ih (hb.pushTo _ _)

/-- What else a body has does not matter. -/
theorem Holds.congr {b' : Body} (hb : Holds b log) (hquery : b'.query = b.query)
    (hfilter : b'.filter = b.filter) (hnested : b'.nested = b.nested) : Holds b' log where
  clauses group := by
    rw [← hb.clauses]
    cases group <;> simp [Body.clauses, hquery, hfilter, hnested]
  paths := hnested ▸ hb.paths
  ascending := hnested ▸ hb.ascending

theorem Holds.unchanged {b' : Body} (hb : Holds b log) (hquery : b'.query = b.query)
    (hfilter : b'.filter = b.filter) (hnested : b'.nested = b.nested) : Holds b' (log ++ []) := by
  rw [List.append_nil]
  exact hb.congr hquery hfilter hnested

theorem clause_congr (hq : q.SameScope q') : q.clause = q'.clause := by
  cases q
  cases q'
  obtain ⟨rfl, rfl, rfl, rfl⟩ := hq
  rfl

theorem Adds.congr (hq : q.SameScope q') (hadds : Adds q' call h added h') :
    Adds q call h added h' := by
  cases hadds with
  | filter | query | order | paginate | aggregate => constructor
  | search hkept => exact .search (by rwa [hq.registry, clause_congr hq])

theorem AddsAll.congr (hq : q.SameScope q') (hadds : AddsAll q' calls h added h') :
    AddsAll q calls h added h' := by
  induction hadds with
  | nil h => exact .nil h
  | cons hcall _ ih => exact .cons (hcall.congr hq) ih

theorem Holds.release (hb : Holds b log) (aggregates : Fields AggregateSpec)
    (replaced : Option AggregateSpec) : Holds (release aggregates replaced b) log := by
  unfold IndexQuery.release
  split
  · exact hb
  · split
    · exact hb
    · exact hb.congr rfl rfl rfl

/-- One call adds its clauses to the groups, and leaves alone how later terms are read. -/
theorem perform_adds (hq : perform q call h = (.ok q', h')) :
    ∃ added, Adds q call h added h' ∧ q.SameScope q' ∧
      ∀ log, Holds q.body log → Holds q'.body (log ++ added) := by
  cases call with
  | write call =>
    cases call with
    | search terms =>
      obtain ⟨stage, kept, -, hkept, rfl⟩ := search_eq_ok.mp hq
      exact ⟨_, .search (gather_eq_ok_iff.mp hkept), ⟨rfl, rfl, rfl, rfl⟩,
        fun log hlog => hlog.foldl_push kept⟩
    | order spec =>
      obtain ⟨hdone, rfl⟩ := Prod.mk.inj hq
      rw [order_eq] at hdone
      obtain ⟨stage, -, hdone⟩ := ok_of_bind hdone
      obtain ⟨keys, -, rfl⟩ := ok_of_map hdone
      exact ⟨[], .order spec h, ⟨rfl, rfl, rfl, rfl⟩, fun log hlog => hlog.unchanged rfl rfl rfl⟩
    | paginate w =>
      obtain ⟨hdone, rfl⟩ := Prod.mk.inj hq
      obtain ⟨stage, -, hdone⟩ := ok_of_bind hdone
      cases hdone
      exact ⟨[], .paginate w h, ⟨rfl, rfl, rfl, rfl⟩, fun log hlog => hlog.unchanged rfl rfl rfl⟩
  | filter c =>
    obtain ⟨hdone, rfl⟩ := Prod.mk.inj hq
    obtain ⟨stage, -, hdone⟩ := ok_of_bind hdone
    cases hdone
    exact ⟨_, .filter c h, ⟨rfl, rfl, rfl, rfl⟩, fun log hlog => hlog.pushTo .filter c⟩
  | query c =>
    obtain ⟨hdone, rfl⟩ := Prod.mk.inj hq
    obtain ⟨stage, -, hdone⟩ := ok_of_bind hdone
    cases hdone
    exact ⟨_, .query c h, ⟨rfl, rfl, rfl, rfl⟩, fun log hlog => hlog.pushTo .query c⟩
  | aggregate name spec =>
    obtain ⟨hdone, rfl⟩ := Prod.mk.inj hq
    obtain ⟨body, hbody, rfl⟩ := aggregate_eq_ok hdone
    refine ⟨[], .aggregate name spec h, ⟨rfl, rfl, rfl, rfl⟩, fun log hlog => Holds.release ?_ _ _⟩
    obtain ⟨-, rfl⟩ | ⟨a, -, -, rfl⟩ := hbody
    · exact hlog.unchanged rfl rfl rfl
    · exact hlog.unchanged rfl rfl rfl

/-- All calls add their clauses behind those that are there. -/
theorem performAll_adds (hq : performAll q calls h = (.ok q', h')) (hlog : Holds q.body log) :
    ∃ added, AddsAll q calls h added h' ∧ Holds q'.body (log ++ added) := by
  induction calls generalizing q h log with
  | nil =>
    cases hq
    exact ⟨[], .nil _, by rwa [List.append_nil]⟩
  | cons call calls ih =>
    rw [performAll, List.foldlM_cons] at hq
    obtain ⟨q₁, g, hfirst, hrest⟩ := Session.bind_eq_ok.mp hq
    obtain ⟨added, hadds, hscope, hpush⟩ := perform_adds hfirst
    obtain ⟨later, hlater, hbody⟩ := ih hrest (hpush log hlog)
    refine ⟨added ++ later, .cons hadds (hlater.congr hscope), ?_⟩
    rwa [← List.append_assoc]

theorem Holds.mem_keys (hb : Holds b log) :
    path ∈ b.nested.keys ↔ ∃ c, (Group.nested path, c) ∈ log := by
  rw [← hb.paths, Fields.contains_iff, Fields.keys, List.mem_map]
  simp [hb.ascending.mem_iff]

theorem Holds.nested_eq (hb : Holds b log) :
    b.nested = b.nested.keys.map fun path => (path, inGroup (.nested path) log) := by
  have hentry : ∀ e ∈ b.nested, (e.1, inGroup (.nested e.1) log) = e := by
    rintro ⟨path, clauses⟩ he
    have hget := hb.clauses (.nested path)
    rw [Body.clauses, hb.ascending.mem_iff.mp he] at hget
    rw [← hget]
    rfl
  rw [Fields.keys, List.map_map]
  exact (List.map_congr_left hentry).trans (List.map_id _) |>.symm

/-- Sorting a log by groups keeps each of its entries once, when no group is there twice. -/
theorem flatMap_filter_perm {groups : List Group} (hgroups : groups.Nodup)
    (hlog : ∀ t ∈ log, t.1 ∈ groups) :
    (groups.flatMap fun group => log.filter (·.1 = group)).Perm log := by
  induction groups generalizing log with
  | nil =>
    obtain rfl : log = [] := List.eq_nil_iff_forall_not_mem.mpr fun t ht => by simpa using hlog t ht
    exact List.Perm.refl _
  | cons group groups ih =>
    obtain ⟨hnot, hnodup⟩ := List.nodup_cons.mp hgroups
    let rest := log.filter fun t => !decide (t.1 = group)
    have hrest : ∀ t ∈ rest, t.1 ∈ groups := by
      intro t ht
      obtain ⟨ht, hne⟩ := List.mem_filter.mp ht
      exact (List.mem_cons.mp (hlog t ht)).resolve_left (by simpa using hne)
    -- taking out one group leaves the others as they are
    have hothers : ∀ g ∈ groups, rest.filter (·.1 = g) = log.filter (·.1 = g) := by
      intro g hg
      have hne : g ≠ group := ne_of_mem_of_not_mem hg hnot
      rw [List.filter_filter]
      refine List.filter_congr fun t _ => ?_
      by_cases ht : t.1 = g <;> simp [ht, hne]
    have hperm := ih hnodup hrest
    rw [List.flatMap_congr hothers] at hperm
    rw [List.flatMap_cons]
    exact (hperm.append_left _).trans (List.filter_append_perm _ _)

theorem toJson_query (b : Body) : b.toJson.get? "query" = some b.boolQuery := by
  simp only [Body.toJson, Json.get?, Fields.get?_append]
  cases b.aggregations.isEmpty <;> cases b.skip <;> simp

/-- A term on a nested column is text, and so is the condition that it is read as. -/
theorem clause_of_nested {c : Column} {raw : String} {p : Placed} (hkind : c.kind = .nested path)
    (hplain : c.searchStrategy = none) (hread : q.clause c raw h = (.ok (some p), h')) :
    ∃ m, p = Clause.ofText c.kind c.clauseField m := by
  rw [clause_eq hplain] at hread
  obtain ⟨meaning, g, hmeaning, hp⟩ := Session.bind_eq_ok.mp hread
  obtain ⟨value, rfl, rfl⟩ := Option.map_eq_some_iff.mp (Except.ok.inj (Prod.mk.inj hp).1)
  have hparse : Term.parse c.toColumnData q.reader.deobfuscate raw =
      (Term.text c.search raw).map .text := by
    simp only [Term.parse, hkind]
  rw [TermReader.read, if_neg (by simp [hkind, ColumnKind.isRelationship])] at hmeaning
  obtain ⟨hmeaning, -⟩ := Prod.mk.inj hmeaning
  rw [TermReader.readValue, hparse] at hmeaning
  cases htext : Term.text c.search raw with
  | error e =>
    rw [htext] at hmeaning
    cases e <;> cases hmeaning
  | ok m =>
    rw [htext] at hmeaning
    cases hmeaning
    exact ⟨m, rfl⟩

/-- What a search adds on nested documents is about fields under their path. -/
theorem Adds.under_path
    (hplain : ∀ c ∈ q.registry.columns, ∀ path, c.kind = .nested path → c.searchStrategy = none)
    (hadds : Adds q call h added h') {c : Clause} (hmem : (Group.nested path, c) ∈ added) :
    ∀ field ∈ addressed c.toJson, ∃ rest, field = path ++ "." ++ rest := by
  cases hadds with
  | filter | query | order | paginate | aggregate => simp at hmem
  | search hkept =>
    intro field hfield
    obtain ⟨⟨column, placed⟩, ht, heq⟩ := List.mem_map.mp hmem
    obtain ⟨hgroup, rfl⟩ := Prod.mk.inj heq
    have hkind : column.kind = .nested path := by
      simp only [groupOf] at hgroup
      split at hgroup <;> simp_all
    obtain ⟨raw, h₁, h₂, hterm, hread⟩ := Session.mem_of_gather (gather_eq_ok_iff.mpr hkept) _ ht
    obtain ⟨m, rfl⟩ := clause_of_nested hkind
      (hplain column (Registry.mem_of_resolveTerms hterm) path hkind) hread
    rw [Clause.eq_of_mem_addressed_ofText hfield]
    exact Index.clauseField_under_path hkind

theorem AddsAll.under_path
    (hplain : ∀ c ∈ q.registry.columns, ∀ path, c.kind = .nested path → c.searchStrategy = none)
    (hadds : AddsAll q calls h added h') {c : Clause} (hmem : (Group.nested path, c) ∈ added) :
    ∀ field ∈ addressed c.toJson, ∃ rest, field = path ++ "." ++ rest := by
  induction hadds with
  | nil => cases hmem
  | cons hcall _ ih => exact (List.mem_append.mp hmem).elim (hcall.under_path hplain) ih

/-- The entry for the nested documents of a path. -/
def nestedEntry (path : String) (clauses : List Clause) : Json :=
  .obj [("nested", .obj [("path", .str path),
    ("query", .obj [("bool", .obj [("must", .arr (clauses.map Clause.toJson))])])])]

theorem nestedJson_eq (path : String) (clauses : List Clause) :
    Body.nestedJson path clauses = nestedEntry path clauses := by
  simp [Body.nestedJson, nestedEntry, Clause.toJson, Clause.onField, Clause.single,
    Index.listToJson_eq_map]

theorem holds_start (index : SearchIndex) (registry : Registry) (settings : Settings) :
    Holds (start index registry settings).body [] where
  clauses group := by cases group <;> rfl
  paths _ := by simp [start, Fields.contains]
  ascending := Fields.ascending_nil

/-- The scored clauses of a log behind one that always holds, and the unscored ones before an entry
for each path. -/
def assembled (paths : List String) (log : List (Group × Clause)) : Json :=
  .obj [("bool", .obj [
    ("filter", .arr ((inGroup .filter log).map Clause.toJson ++
      paths.map fun path => nestedEntry path (inGroup (.nested path) log))),
    ("must", .arr (.obj [("match_all", .obj [])] :: (inGroup .query log).map Clause.toJson))])]

theorem Holds.query_eq (hb : Holds b log) :
    b.toJson.get? "query" = some (assembled b.nested.keys log) := by
  have hquery : b.query = inGroup .query log := hb.clauses .query
  have hfilter : b.filter = inGroup .filter log := hb.clauses .filter
  have hnested : (b.nested.map fun e => Body.nestedJson e.1 e.2) =
      b.nested.keys.map fun path => nestedEntry path (inGroup (.nested path) log) := by
    conv_lhs => rw [hb.nested_eq, List.map_map]
    exact List.map_congr_left fun path _ => nestedJson_eq _ _
  rw [toJson_query, Body.boolQuery, hquery, hfilter, hnested]
  rfl

theorem mem_inGroup {group : Group} {c : Clause} : c ∈ inGroup group log ↔ (group, c) ∈ log := by
  simp [inGroup, and_comm]

/-- Whatever is called while a query is written, its body holds each clause that was added once, in
the order of the calls: the scored and the unscored ones in lists of their own, and those on nested
documents in one entry for each path, where they are about fields under this path only. -/
theorem body_assembles {index : SearchIndex} {registry : Registry} {settings : Settings}
    {reader : TermReader}
    (hplain : ∀ c ∈ registry.columns, ∀ path, c.kind = .nested path → c.searchStrategy = none)
    (hq : performAll { start index registry settings with reader } calls h = (.ok q, h')) :
    ∃ (log : List (Group × Clause)) (paths : List String),
      AddsAll { start index registry settings with reader } calls h log h' ∧
      q.body.toJson.get? "query" = some (assembled paths log) ∧
      paths.Pairwise (· < ·) ∧
      (∀ path, path ∈ paths ↔ ∃ c, (Group.nested path, c) ∈ log) ∧
      ((.query :: .filter :: paths.map Group.nested).flatMap fun group =>
        log.filter (·.1 = group)).Perm log ∧
      ∀ path ∈ paths, ∀ field ∈ addressed (nestedEntry path (inGroup (.nested path) log)),
        ∃ rest, field = path ++ "." ++ rest := by
  obtain ⟨log, hadds, hbody⟩ := performAll_adds hq (holds_start index registry settings)
  rw [List.nil_append] at hbody
  have hpaths : q.body.nested.keys.Pairwise (· < ·) := List.pairwise_map.mpr hbody.ascending
  refine ⟨log, q.body.nested.keys, hadds, hbody.query_eq, hpaths, fun path => hbody.mem_keys,
    flatMap_filter_perm ?nodup ?cover, ?fields⟩
  case nodup =>
    have hnodup : q.body.nested.keys.Nodup := hpaths.imp fun hlt => hlt.ne
    simpa using hnodup.map fun _ _ => Group.nested.inj
  case cover =>
    rintro ⟨group, c⟩ hc
    cases group with
    | query | filter => simp
    | nested path => simpa using hbody.mem_keys.mpr ⟨c, hc⟩
  case fields =>
    intro path hpath field hfield
    rw [← nestedJson_eq, Clause.addressed_nestedJson, List.mem_flatMap] at hfield
    obtain ⟨c, hc, hfield⟩ := hfield
    exact hadds.under_path hplain (mem_inGroup.mp hc) field hfield

end IndexQuery

namespace Blog

/-- A tag as it stands in links; its field is written with its path. -/
def slug : Column where
  name := "slug"
  backendField := "tags.slug"
  kind := .nested "tags"
  search := .exact

def author : Column where
  name := "author"
  backendField := "name"
  kind := .nested "authors"

def tagged : Registry where
  columns := [title, tag, slug, author]
  distinct := by decide

/-- Conditions on tags, on authors and on posts take turns. -/
def mixed : List IndexCall :=
  [.filter (.term "site_id" (.int 7)),
    .write (.search [("tag", "logic"), ("author", "ann"), ("title", "lean"), ("slug", "")]),
    .write (.search [("author", "bob"), ("unknown", "x"), ("slug", "logic")])]

theorem tagged_plain : ∀ c ∈ tagged.columns, c.searchStrategy = none := by
  decide

end Blog

theorem IndexQuery.body_assembles_tagged :
    let start := { IndexQuery.start Blog.index Blog.tagged {} with
      reader := { associations := none, deobfuscate := id } }
    ∃ q h', performAll start Blog.mixed [] = (.ok q, h') ∧
      addressed q.body.boolQuery = ["site_id", "authors.name", "authors.name", "tags.label",
        "tags.slug", "tags.slug", "tags.slug", "posts.title"] ∧
      ∃ log paths, AddsAll start Blog.mixed [] log h' ∧
        q.body.toJson.get? "query" = some (assembled paths log) ∧
        ∀ path ∈ paths, ∀ field ∈ addressed (nestedEntry path (inGroup (.nested path) log)),
          ∃ rest, field = path ++ "." ++ rest := by
  intro start
  obtain ⟨q, h', hq, hfields⟩ : ∃ q h', performAll start Blog.mixed [] = (.ok q, h') ∧
      addressed q.body.boolQuery = ["site_id", "authors.name", "authors.name", "tags.label",
        "tags.slug", "tags.slug", "tags.slug", "posts.title"] := ⟨_, _, rfl, by decide +kernel⟩
  obtain ⟨log, paths, hadds, hquery, -, -, -, hunder⟩ := body_assembles
    (fun c hc _ _ => Blog.tagged_plain c hc) hq
  exact ⟨q, h', hq, hfields, log, paths, hadds, hquery, hunder⟩

end TableView
