import TableView.Proofs.Association.Resolution
import TableView.Proofs.Index.Reading
import TableView.Proofs.Query.Placement
import TableView.Proofs.Query.Totality
import TableView.Proofs.Query.Writing
import TableView.Proofs.Sql.Conjunction

/-! A term that can be read but finds nothing selects nothing: the identifier that cannot be
unscrambled, and the relationship without owners. -/
namespace TableView
open Sql (Balanced Conjunction Fragment Predicate Reader Relation Truth)

/-- An identifier that unscrambling leaves as it is or does not turn into a number. -/
def Term.Hidden (deobfuscate : String → String) (raw : String) : Prop :=
  deobfuscate (Text.trim raw) = Text.trim raw ∨
    Text.int64? (Text.trimmed (deobfuscate (Text.trim raw)).toList) = none

theorem Term.obfuscatedId_eq_noMatch {deobfuscate : String → String} {raw : String} :
    obfuscatedId deobfuscate raw = .noMatch ↔ Hidden deobfuscate raw := by
  unfold obfuscatedId Hidden
  by_cases hplain : deobfuscate (Text.trim raw) = Text.trim raw
  · simp [hplain]
  · simp only [hplain, if_false, false_or]
    split <;> simp_all

/-- The term is read, at this point of a session, as one that nothing satisfies. -/
def TermReader.Misses (r : TermReader) (c : ColumnData) (raw : String) (h : List Call) : Prop :=
  c.kind = .obfuscatedId ∧ Term.Hidden r.deobfuscate raw ∨
  c.kind.isRelationship = true ∧ ∃ source table key h',
    r.associations = some (source, table) ∧
      Association.resolve source table c raw h = (.ok (.owners key []), h')

/-- A meaning that nothing has. -/
def TermMeaning.IsEmpty (m : TermMeaning) : Prop := m = .value .noMatch ∨ ∃ key, m = .owners key []

theorem TermReader.read_of_misses {r : TermReader} {c : ColumnData} {raw : String}
    {h : List Call} (hm : r.Misses c raw h) :
    ∃ m h', m.IsEmpty ∧ r.read c raw h = (.ok (some m), h') := by
  obtain ⟨hkind, hhidden⟩ | ⟨hkind, source, table, key, h', hassociations, hresolve⟩ := hm
  · refine ⟨.value .noMatch, h, Or.inl rfl, ?_⟩
    have hparse : Term.parse c r.deobfuscate raw = .ok .noMatch := by
      rw [← Term.obfuscatedId_eq_noMatch.mpr hhidden]
      simp only [Term.parse, hkind]
    simp [read, hkind, ColumnKind.isRelationship, readValue, hparse]
  · refine ⟨.owners key [], h', Or.inr ⟨key, rfl⟩, ?_⟩
    rw [read, if_pos hkind]
    simp only [readRelationship, hassociations]
    exact Session.bind_of_ok hresolve

namespace Session
variable {α : Type} {read : Column → String → Session (Option α)}
  {terms rest : List (Column × String)} {added : List (Column × α)} {c : Column} {raw : String}
  {h h' : List Call}

theorem mem_of_gather (hg : gather read terms h = (.ok added, h')) :
    ∀ t ∈ added, ∃ raw h₁ h₂, (t.1, raw) ∈ terms ∧ read t.1 raw h₁ = (.ok (some t.2), h₂) := by
  induction terms generalizing h h' added with
  | nil =>
    cases hg
    simp
  | cons u terms ih =>
    obtain ⟨d, other⟩ := u
    obtain ⟨o, h₁, ho, hg⟩ := bind_eq_ok.mp hg
    have hlater : ∀ {more : List (Column × α)} {h₂}, gather read terms h₁ = (.ok more, h₂) →
        ∀ t ∈ more, ∃ raw h₁ h₂, (t.1, raw) ∈ (d, other) :: terms ∧
          read t.1 raw h₁ = (.ok (some t.2), h₂) := by
      intro more h₂ hmore t ht
      obtain ⟨raw, g, g', hmem, hread⟩ := ih hmore t ht
      exact ⟨raw, g, g', List.mem_cons_of_mem _ hmem, hread⟩
    cases o with
    | none => exact hlater hg
    | some b =>
      obtain ⟨more, h₂, hmore, hg⟩ := bind_eq_ok.mp hg
      cases hg
      intro t ht
      rcases List.mem_cons.mp ht with rfl | ht
      · exact ⟨other, h, h₁, List.mem_cons_self, ho⟩
      · exact hlater hmore t ht

/-- Before a term all terms before it are read, and what the term is read as then is gathered. -/
theorem gather_around (hg : gather read (terms ++ (c, raw) :: rest) h = (.ok added, h')) :
    ∃ first h₁, gather read terms h = (.ok first, h₁) ∧
      ∀ a h₂, read c raw h₁ = (.ok (some a), h₂) → (c, a) ∈ added := by
  rw [gather_append] at hg
  obtain ⟨first, h₁, hfirst, hg⟩ := bind_eq_ok.mp hg
  obtain ⟨later, g, hlater, hg⟩ := bind_eq_ok.mp hg
  cases hg
  refine ⟨first, h₁, hfirst, fun a h₂ ha => ?_⟩
  rw [gather, bind_of_ok ha] at hlater
  obtain ⟨more, g', -, hlater⟩ := bind_eq_ok.mp hlater
  cases hlater
  simp

end Session

theorem Registry.resolveTerms_around {registry : Registry} {name raw : String} {c : Column}
    (hc : registry.lookup? name = some c) (before after : List SearchTerm) :
    registry.resolveTerms (before ++ (name, raw) :: after) =
      registry.resolveTerms before ++ (c, raw) :: registry.resolveTerms after := by
  simp [resolveTerms, hc]

namespace RelationalQuery
variable {q q' : RelationalQuery} {terms before after : List SearchTerm} {c : Column}
  {raw name : String} {h h' : List Call} {f : Fragment}

/-- Searching adds predicates to a relation and takes none away. -/
theorem mem_foldl_push {r : Relation} {added : List (Column × Fragment)} :
    f ∈ (added.foldl push r).filters ++ (added.foldl push r).having ↔
      f ∈ r.filters ++ r.having ∨ ∃ t ∈ added, f = t.2 := by
  induction added generalizing r with
  | nil => simp
  | cons t added ih =>
    have hpush : f ∈ (push r t).filters ++ (push r t).having ↔
        f ∈ r.filters ++ r.having ∨ f = t.2 := by
      unfold push
      split <;> simp only [List.mem_append, List.mem_singleton]
      · exact or_right_comm
      · exact or_assoc.symm
    rw [List.foldl_cons, ih, hpush, or_assoc]
    simp only [List.mem_cons, exists_eq_or_imp]

/-- What a search compiles a term to that finds nothing, wherever the term stands. -/
theorem never_mem_search (hplain : c.searchStrategy = none)
    (hc : q.registry.lookup? name = some c)
    (hmiss : q.reader.Misses c.toColumnData raw (q.search before h).2)
    (hq : q.search (before ++ (name, raw) :: after) h = (.ok q', h')) :
    Fragment.never ∈ q'.relation.filters ++ q'.relation.having := by
  obtain ⟨stage, added, hstage, hadded, rfl⟩ := search_eq_ok.mp hq
  rw [Registry.resolveTerms_around hc] at hadded
  obtain ⟨first, h₁, hfirst, hgathered⟩ := Session.gather_around hadded
  rw [search_eq_ok.mpr ⟨stage, first, hstage, hfirst, rfl⟩] at hmiss
  obtain ⟨m, h₂, hm, hread⟩ := TermReader.read_of_misses hmiss
  have hpredicate : q.predicate c raw h₁ = (.ok (some .never), h₂) := by
    rw [predicate_eq hplain, Session.bind_of_ok hread]
    rcases hm with rfl | ⟨key, rfl⟩ <;> rfl
  exact mem_foldl_push.mpr (Or.inr ⟨_, hgathered _ _ hpredicate, rfl⟩)

/-- The conditions of the base, those of strategies and the names of fields are balanced texts. -/
structure Balanced (q : RelationalQuery) : Prop where
  relation : ∀ f ∈ q.relation.filters ++ q.relation.having, f.Balanced
  table : Sql.Balanced q.base.table
  owners : ∀ table name a, q.store.association table name = some a → Sql.Balanced a.ownerField
  fields : ∀ c ∈ q.registry.columns,
    Sql.Balanced c.backendField ∧ Sql.Balanced c.idField ∧ Sql.Balanced c.typeField
  strategies : ∀ c ∈ q.registry.columns, ∀ strategy raw f, c.searchStrategy = some strategy →
    strategy c.toColumnData raw = .sql f → f.Balanced

theorem predicate_balanced (hb : q.Balanced) (hc : c ∈ q.registry.columns)
    (hp : q.predicate c raw h = (.ok (some f), h')) : f.Balanced := by
  cases hs : c.searchStrategy with
  | some strategy =>
    cases hanswer : strategy c.toColumnData raw with
    | sql g =>
      simp only [predicate, hs, hanswer] at hp
      cases hp
      exact hb.strategies c hc strategy raw _ hs hanswer
    | unfiltered | index _ =>
      simp only [predicate, hs, hanswer] at hp
      cases hp
  | none =>
    rw [predicate_eq hs] at hp
    obtain ⟨m, h₁, hread, hp⟩ := Session.bind_eq_ok.mp hp
    obtain ⟨rfl, -⟩ | ⟨t, rfl, -⟩ | ⟨a, p, ids, ha, -, rfl, -⟩ := TermReader.read_cases rfl hread
    · cases hp
    · cases hp
      apply Predicate.fragment_balanced
      intro s hs
      obtain ⟨hfield, hid, htype⟩ := hb.fields c hc
      rcases Predicate.fields_ofTerm hs with rfl | rfl | rfl
      · exact hfield
      · exact hid
      · exact htype
    · cases hp
      apply Predicate.fragment_balanced
      intro s hs
      simp only [condition, ownedBy] at hs
      split at hs
      · simp [Predicate.fields] at hs
      · obtain rfl := List.mem_singleton.mp hs
        exact (hb.table.append (.of_plain rfl)).append (hb.owners _ _ a ha)

theorem search_balanced (hb : q.Balanced) (hq : q.search terms h = (.ok q', h')) :
    ∀ f ∈ q'.relation.filters ++ q'.relation.having, f.Balanced := by
  obtain ⟨stage, added, -, hadded, rfl⟩ := search_eq_ok.mp hq
  intro f hf
  rcases mem_foldl_push.mp hf with hf | ⟨t, ht, rfl⟩
  · exact hb.relation f hf
  · obtain ⟨raw, g, g', hmem, hread⟩ := Session.mem_of_gather hadded t ht
    exact predicate_balanced hb (Registry.mem_of_resolveTerms hmem) hread

end RelationalQuery

namespace IndexQuery
open Index (Body Clause Placed)
variable {q q' : IndexQuery} {terms before after : List SearchTerm} {c : Column}
  {raw name : String} {h h' : List Call}

/-- A search adds unscored clauses to the others and takes none away, unless their column is
nested. -/
theorem mem_filter_foldl_push {b : Body} {added : List (Column × Placed)} {clause : Clause}
    (hc : ∀ path, c.kind ≠ .nested path) (hm : (c, Placed.filter clause) ∈ added) :
    clause ∈ (added.foldl push b).clauses .filter := by
  have hgroup : groupOf c (.filter clause) = .filter := by
    unfold groupOf
    split
    case h_1 hpath => exact absurd hpath (hc _)
    case h_2 hplaced _ => cases hplaced
    case h_3 => rfl
  rw [clauses_foldl_push]
  refine List.mem_append_right _ (List.mem_map.mpr ⟨_, List.mem_filter.mpr ⟨hm, ?_⟩, rfl⟩)
  exact decide_eq_true hgroup

theorem none_mem_search (hplain : c.searchStrategy = none)
    (hc : q.registry.lookup? name = some c)
    (hmiss : q.reader.Misses c.toColumnData raw (q.search before h).2)
    (hq : q.search (before ++ (name, raw) :: after) h = (.ok q', h')) :
    Clause.none ∈ q'.body.filter := by
  obtain ⟨stage, added, hstage, hadded, rfl⟩ := search_eq_ok.mp hq
  rw [Registry.resolveTerms_around hc] at hadded
  obtain ⟨first, h₁, hfirst, hgathered⟩ := Session.gather_around hadded
  rw [search_eq_ok.mpr ⟨stage, first, hstage, hfirst, rfl⟩] at hmiss
  obtain ⟨m, h₂, hm, hread⟩ := TermReader.read_of_misses hmiss
  have hclause : q.clause c raw h₁ = (.ok (some (.filter .none)), h₂) := by
    rw [clause_eq hplain, Session.bind_of_ok hread]
    rcases hm with rfl | ⟨key, rfl⟩ <;> rfl
  have hnested : ∀ path, c.kind ≠ .nested path := by
    intro path hk
    rcases hmiss with ⟨hkind, -⟩ | ⟨hkind, -⟩ <;> simp [hk, ColumnKind.isRelationship] at hkind
  exact mem_filter_foldl_push hnested (hgathered _ _ hclause)

end IndexQuery

/-- A search with a term that finds nothing selects nothing, whatever else is asked for and wherever
the term stands. The conditions of its clauses, joined from predicates of any text, are satisfied by
no row or by no group, whatever the other predicates say; where these are balanced, the texts of the
clauses are read so, too. No document satisfies the query. -/
theorem search_fails_closed {c : Column} {name raw : String} {before after : List SearchTerm}
    {h h' : List Call} (hplain : c.searchStrategy = none) :
    (∀ q q' : RelationalQuery, q.registry.lookup? name = some c →
      q.reader.Misses c.toColumnData raw (q.search before h).2 →
      q.search (before ++ (name, raw) :: after) h = (.ok q', h') →
        let onRows := Conjunction.ofClause q'.relation.filters
        let onGroups := Conjunction.ofClause q'.relation.having
        Fragment.never ∈ q'.relation.filters ++ q'.relation.having ∧
        (onRows.text = Relation.conditionText q'.relation.filters ∧
          onGroups.text = Relation.conditionText q'.relation.having ∧
          ∀ rows groups : Fragment → Truth, rows .never = .no → groups .never = .no →
            onRows.truth rows = .no ∨ onGroups.truth groups = .no) ∧
        (q.Balanced → ∀ rows groups : Reader,
          rows.text (Relation.conditionText q'.relation.filters) = .no ∨
          groups.text (Relation.conditionText q'.relation.having) = .no)) ∧
    ∀ q q' : IndexQuery, q.registry.lookup? name = some c →
      q.reader.Misses c.toColumnData raw (q.search before h).2 →
      q.search (before ++ (name, raw) :: after) h = (.ok q', h') →
        ∀ leaf, Index.holds leaf q'.body.boolQuery = false := by
  constructor
  · intro q q' hc hmiss hq onRows onGroups
    have hnever := RelationalQuery.never_mem_search hplain hc hmiss hq
    have hclosed : ∀ rows groups : Fragment → Truth, rows .never = .no → groups .never = .no →
        onRows.truth rows = .no ∨ onGroups.truth groups = .no := by
      intro rows groups hrows hgroups
      exact (List.mem_append.mp hnever).imp (Conjunction.truth_ofClause_never · hrows)
        (Conjunction.truth_ofClause_never · hgroups)
    refine ⟨hnever, ⟨Conjunction.text_ofClause _, Conjunction.text_ofClause _, hclosed⟩, ?_⟩
    intro hb rows groups
    have hbalanced := RelationalQuery.search_balanced hb hq
    rw [Conjunction.text_conditionText_eq_truth rows fun f hf =>
        hbalanced f (List.mem_append_left _ hf),
      Conjunction.text_conditionText_eq_truth groups fun f hf =>
        hbalanced f (List.mem_append_right _ hf)]
    exact hclosed _ _ Reader.text_never Reader.text_never
  · intro q q' hc hmiss hq leaf
    have hnone := IndexQuery.none_mem_search hplain hc hmiss hq
    have hfilter : (q'.body.filter.all fun c => Index.holds leaf c.toJson) = false := by
      rw [List.all_eq_false]
      exact ⟨_, hnone, by simp [Index.holds_none]⟩
    rw [Index.holds_boolQuery, hfilter]
    rfl

namespace Blog

/-- Posts by their scrambled ids. -/
def token : Column where
  name := "token"
  backendField := "posts.id"
  kind := .obfuscatedId

def guarded : Registry where
  columns := [title, token, discussion]
  distinct := by decide

/-- Posts that are open or of one site. -/
def visible : Sql.Relation where
  table := "posts"
  filters := [⟨"posts.open OR posts.site_id = ?", [.integer 7]⟩]

/-- The same, where the parentheses of the one predicate do not pair up. -/
def torn : Sql.Relation where
  table := "posts"
  filters := [⟨"posts.open = 1) OR (posts.site_id = ?", [.integer 7]⟩]

theorem visible_balanced : (RelationalQuery.start store guarded visible).Balanced where
  relation := by
    intro f hf
    obtain rfl := List.mem_singleton.mp hf
    exact .of_plain rfl
  table := .of_plain rfl
  owners := by
    intro table name a ha
    simp only [RelationalQuery.start, store] at ha
    split at ha
    · obtain rfl := Option.some.inj ha
      exact .of_plain rfl
    · cases ha
  fields := by
    intro c hc
    simp only [RelationalQuery.start, guarded, List.mem_cons, List.not_mem_nil, or_false] at hc
    rcases hc with rfl | rfl | rfl <;>
      exact ⟨.of_plain rfl, .of_plain rfl, .of_plain rfl⟩
  strategies := by
    intro c hc strategy raw f hs
    simp only [RelationalQuery.start, guarded, List.mem_cons, List.not_mem_nil, or_false] at hc
    rcases hc with rfl | rfl | rfl <;> cases hs

end Blog

theorem search_fails_closed_token :
    let q := RelationalQuery.start Blog.store Blog.guarded Blog.visible
    let torn := RelationalQuery.start Blog.store Blog.guarded Blog.torn
    let i := { IndexQuery.start Blog.index Blog.guarded {} with reader := q.reader }
    let terms : List SearchTerm := [("title", "lean")] ++ ("token", "x9") :: [("comments", "a")]
    Blog.token.searchStrategy = none ∧ q.Balanced ∧
    (∀ h, q.reader.Misses Blog.token.toColumnData "x9" h) ∧
    (∃ q' h', q.search terms [] = (.ok q', h') ∧
      Fragment.never ∈ q'.relation.filters ++ q'.relation.having ∧
      ∀ rows groups : Reader, rows.text (Relation.conditionText q'.relation.filters) = .no ∨
        groups.text (Relation.conditionText q'.relation.having) = .no) ∧
    (∃ q' h', torn.search [("token", "x9")] [] = (.ok q', h') ∧
      Relation.conditionText q'.relation.filters =
        "(posts.open = 1) OR (posts.site_id = ?) AND (1 = 0)" ∧
      ∀ rows groups : Fragment → Truth, rows .never = .no → groups .never = .no →
        (Conjunction.ofClause q'.relation.filters).truth rows = .no ∨
        (Conjunction.ofClause q'.relation.having).truth groups = .no) ∧
    ∃ i' h', i.search terms [] = (.ok i', h') ∧
      ∀ leaf, Index.holds leaf i'.body.boolQuery = false := by
  intro q torn i terms
  have hplain : Blog.token.searchStrategy = none := rfl
  have hmiss : ∀ h, q.reader.Misses Blog.token.toColumnData "x9" h := fun h =>
    Or.inl ⟨rfl, Or.inl rfl⟩
  obtain ⟨q', h', hq⟩ : ∃ q' h', q.search terms [] = (.ok q', h') := ⟨_, _, rfl⟩
  obtain ⟨t', k', ht, htext⟩ : ∃ t' k', torn.search [("token", "x9")] [] = (.ok t', k') ∧
      Relation.conditionText t'.relation.filters =
        "(posts.open = 1) OR (posts.site_id = ?) AND (1 = 0)" := ⟨_, _, rfl, by decide +kernel⟩
  obtain ⟨i', g', hi⟩ : ∃ i' h', i.search terms [] = (.ok i', h') := ⟨_, _, rfl⟩
  obtain ⟨hnever, -, hreads⟩ := (search_fails_closed hplain).1 q q' rfl (hmiss _) hq
  have hsole : torn.search ([] ++ ("token", "x9") :: []) [] = (.ok t', k') := ht
  obtain ⟨-, ⟨-, -, hclosed⟩, -⟩ := (search_fails_closed hplain).1 torn t' rfl (hmiss _) hsole
  have hdocuments := (search_fails_closed hplain).2 i i' rfl (hmiss _) hi
  exact ⟨hplain, Blog.visible_balanced, hmiss,
    ⟨q', h', hq, hnever, hreads Blog.visible_balanced⟩, ⟨t', k', ht, htext, hclosed⟩, i', g', hi,
    hdocuments⟩

end TableView
