import TableView.Proofs.Association.Resolution
import TableView.Proofs.Query.Writing
import TableView.Proofs.Sql.Statements

/-! Every statement that a relational query is compiled to has one value for each marker. -/
namespace TableView
open Sql Session

variable {c : ColumnData} {a : Association} {p : Predicate} {s : AssociationSource}
  {q : RelationalQuery} {table : String} {h : List Call}

/-- The names that a column puts into statements are clean. -/
structure ColumnData.CleanNames (c : ColumnData) : Prop where
  backendField : Clean c.backendField
  sortOverride : ∀ s, c.sortOverride = some s → Clean s
  typeOverride : ∀ s, c.typeOverride = some s → Clean s
  searched : ∀ s, c.associationMode = .textSearch (some s) → Clean s

/-- Clean names, and strategies that answer with aligned predicates and clean order terms. -/
structure Column.WellFormed (c : Column) : Prop where
  names : c.toColumnData.CleanNames
  search : ∀ strategy raw f, c.searchStrategy = some strategy →
    strategy c.toColumnData raw = .sql f → f.WellFormed
  order : ∀ strategy d terms, c.orderStrategy = some strategy →
    strategy c.toColumnData d = .sql terms → ∀ t ∈ terms, Clean t

structure Association.CleanNames (a : Association) : Prop where
  relatedTable : Clean a.relatedTable
  ownerKey : Clean a.ownerKey
  relatedKey : Clean a.relatedKey
  foreignKey : Clean a.foreignKey
  typeColumn : ∀ link, a.polymorphic = some link → Clean link.typeColumn
  join : ∀ j, a.join = some j → Clean j.table ∧ Clean j.ownerKey ∧ Clean j.relatedKey

/-- The associations of a schema and the columns of its tables have clean names. -/
structure AssociationSource.CleanNames (s : AssociationSource) : Prop where
  association : ∀ table name a, s.association table name = some a → a.CleanNames
  columns : ∀ h table columns, s.columns h table = .ok columns → ∀ c ∈ columns, Clean c.1

namespace ColumnData.CleanNames

theorem stem (h : c.CleanNames) {stem : String} (hs : c.stem? = some stem) : Clean stem := by
  have hfield := h.backendField
  simp only [ColumnData.stem?] at hs
  split at hs
  · obtain rfl := Option.some.inj hs
    -- what was cut off has neither quotes nor markers
    have hcut : c.backendField.toList =
        (c.backendField.toList.reverse.drop 3).reverse ++ ['_', 'i', 'd'] := by
      have := List.take_append_drop 3 c.backendField.toList.reverse
      rw [‹c.backendField.toList.reverse.take 3 = _›] at this
      simpa using (congrArg List.reverse this).symm
    unfold Clean Marked at hfield ⊢
    rw [hcut, quotedAfter_append, markers_append] at hfield
    simpa [quotedAfter, markers] using hfield
  · exact absurd hs (by simp)

theorem idField (h : c.CleanNames) : Clean c.idField := by
  unfold ColumnData.idField
  split
  · exact h.backendField
  · exact h.backendField.append (by decide)

theorem typeField (h : c.CleanNames) : Clean c.typeField := by
  unfold ColumnData.typeField
  cases ht : c.typeOverride with
  | some t => exact h.typeOverride t ht
  | none =>
    cases hs : c.stem? with
    | some stem => exact (h.stem hs).append (by decide)
    | none => exact h.backendField.append (by decide)

theorem sortField (h : c.CleanNames) : Clean c.sortField := by
  unfold ColumnData.sortField
  cases ho : c.sortOverride with
  | some o => exact h.sortOverride o ho
  | none => exact h.backendField

theorem sortKeys (h : c.CleanNames) : ∀ k ∈ c.sortKeys, Clean k := by
  intro k hk
  unfold ColumnData.sortKeys at hk
  split at hk
  · simp only [List.mem_cons, List.not_mem_nil, or_false] at hk
    rcases hk with rfl | rfl
    · exact h.typeField
    · exact h.idField
  · obtain rfl := List.mem_singleton.mp hk
    exact h.sortField

end ColumnData.CleanNames

theorem Sql.Predicate.clean_ofTerm (h : c.CleanNames) (t : ParsedTerm) :
    ∀ s ∈ (Predicate.ofTerm c t).fields, Clean s := by
  intro s hs
  rcases Predicate.fields_ofTerm hs with rfl | rfl | rfl
  · exact h.backendField
  · exact h.idField
  · exact h.typeField

namespace Association

theorem CleanNames.ownerField (h : a.CleanNames) : Clean a.ownerField := by
  unfold Association.ownerField
  split
  · exact h.foreignKey
  · exact h.ownerKey

theorem CleanNames.relatedId (h : a.CleanNames) : Clean a.relatedId := by
  unfold Association.relatedId
  split
  · cases hj : a.join with
    | none => exact h.relatedKey
    | some j =>
      obtain ⟨ht, -, hk⟩ := h.join j hj
      exact ht.dot hk
  · exact h.relatedTable.dot h.relatedKey

theorem CleanNames.selectOwners (h : a.CleanNames) : Clean a.selectOwners := by
  have ht := h.relatedTable
  have hselect : Clean "SELECT " := by decide
  have hfrom : Clean " FROM " := by decide
  have hwhere : Clean " WHERE" := by decide
  have hvia : ∀ key, Clean key → Clean
      ("SELECT " ++ a.relatedTable ++ "." ++ key ++ " FROM " ++ a.relatedTable ++ " WHERE") := by
    intro key hk
    have hcolumn : Clean ("SELECT " ++ a.relatedTable ++ "." ++ key) := (hselect.append ht).dot hk
    exact ((hcolumn.append hfrom).append ht).append hwhere
  unfold Association.selectOwners
  split
  · rename_i j _ hj
    obtain ⟨hjt, hjo, hjr⟩ := h.join j hj
    have howner := (((hselect.append hjt).dot hjo).append hfrom).append hjt
    have hinner := (howner.append (by decide : Clean " INNER JOIN ")).append ht
    have hrelated := ((hinner.append (by decide : Clean " ON ")).append ht).dot h.relatedKey
    exact (((hrelated.append (by decide : Clean " = ")).append hjt).dot hjr).append hwhere
  · exact hvia _ h.relatedKey
  · exact hvia _ h.foreignKey

theorem ownerQuery_wellFormed (h : a.CleanNames) (hp : ∀ s ∈ p.fields, Clean s) :
    (a.ownerQuery p).WellFormed := by
  have hselect : Fragment.WellFormed { sql := a.selectOwners } := h.selectOwners
  apply hselect.push
  apply Predicate.fragment_wellFormed
  intro s hs
  unfold typed at hs
  split at hs
  · rename_i link _ hl
    rcases List.mem_append.mp hs with hs | hs
    · exact hp s hs
    · obtain rfl := List.mem_singleton.mp hs
      exact h.relatedTable.dot (h.typeColumn link hl)
  · exact hp s hs

theorem clean_searchedFields (hs : s.CleanNames) {field : Option String} {fields : List String}
    (hfield : ∀ f, field = some f → Clean f) (hf : (searchedFields s a field h).1 = .ok fields) :
    ∀ f ∈ fields, Clean f := by
  intro f hmem
  cases field with
  | some g =>
    obtain rfl := Except.ok.inj hf
    exact List.mem_singleton.mp hmem ▸ hfield g rfl
  | none =>
    rw [searchedFields_none] at hf
    obtain ⟨columns, hcolumns, rfl⟩ := ok_of_map hf
    obtain ⟨c, hc, rfl⟩ := List.mem_map.mp hmem
    exact hs.columns h _ columns hcolumns c (List.mem_filter.mp hc).1

theorem clean_related (hs : s.CleanNames) (ha : a.CleanNames) {mode : AssociationMode}
    {raw : String} (hmode : ∀ f, mode = .textSearch (some f) → Clean f)
    (hp : (a.related? s mode raw h).1 = .ok (some p)) : ∀ f ∈ p.fields, Clean f := by
  intro f hf
  obtain ⟨rfl, rfl⟩ | ⟨field, fields, rfl, hfields, hp⟩ := related?_cases hp
  · exact List.mem_singleton.mp hf ▸ ha.relatedId
  · have hclean := clean_searchedFields hs (fun g hg => hmode g (by rw [hg])) hfields
    obtain ⟨q, hq, hf⟩ := Predicate.fields_anyOf? hp hf
    obtain ⟨g, hg, rfl⟩ := List.mem_map.mp hq
    exact List.mem_singleton.mp hf ▸ ha.relatedTable.dot (hclean g hg)

/-- A question about columns, or a lookup of related rows by a statement with a value for each
marker. -/
def IsAlignedLookup : Call → Prop
  | .columns _ => True
  | .pluckIds f => f.Aligned
  | _ => False

theorem related?_keeps (hs : s.CleanNames) (ha : a.CleanNames) (hc : c.CleanNames) (raw : String) :
    Keeps IsAlignedLookup (fun o => ∀ p, o = some p → ∀ f ∈ p.fields, Clean f)
      (a.related? s c.associationMode raw) := by
  refine fun h => ⟨⟨_, related?_calls a _ raw, fun call hcall => ?_⟩, ?_⟩
  · obtain ⟨t, rfl⟩ := a.columns_of_questions hcall
    trivial
  · rintro o hp p rfl
    exact clean_related hs ha hc.searched hp

theorem resolve_keeps (hs : s.CleanNames) (hc : c.CleanNames) (raw : String) :
    Keeps IsAlignedLookup (fun r => ∀ key ids, r = .owners key ids → Clean key)
      (resolve s table c raw) := by
  unfold resolve
  split
  · exact .throw _
  · rename_i a hassociation
    have ha := hs.association _ _ a hassociation
    refine .bind (related?_keeps hs ha hc raw) fun o ho => ?_
    cases o with
    | none => exact .pure (by simp)
    | some p =>
      have hquery := ownerQuery_wellFormed ha (ho p rfl)
      refine .bind (Q := fun _ => True) (.ask hquery.aligned fun _ _ _ => trivial) ?_
      intro ids _
      apply Keeps.pure
      intro key ids h
      cases h
      exact ha.ownerField

end Association

/-- The names in the condition that a meaning puts on its column are clean. -/
def TermMeaning.CleanNames : TermMeaning → Prop
  | .owners key _ => Clean key
  | .value _ => True

theorem TermReader.read_keeps {r : TermReader} (hc : c.CleanNames) (raw : String)
    (hr : ∀ source table, r.associations = some (source, table) → source.CleanNames) :
    Keeps Association.IsAlignedLookup (fun o => ∀ m, o = some m → m.CleanNames) (r.read c raw) := by
  unfold TermReader.read
  split
  · unfold TermReader.readRelationship
    split
    · exact .pure (by simp)
    · rename_i source table hassociations
      refine .bind (Association.resolve_keeps (hr source table hassociations) hc raw) ?_
      intro resolution hclean
      cases resolution with
      | unfiltered => exact .pure (by simp)
      | owners key ids => exact .pure (by rintro m ⟨⟩; exact hclean key ids rfl)
  · refine .ofExcept fun o ho m hm => ?_
    subst hm
    unfold TermReader.readValue at ho
    split at ho
    · cases Except.ok.inj ho
      trivial
    · cases ho
    · cases Except.ok.inj ho

namespace RelationalQuery

/-- A query over a clean schema, whose statements have a value for each marker. -/
structure WellFormed (q : RelationalQuery) : Prop where
  store : q.store.toAssociationSource.CleanNames
  columns : ∀ c ∈ q.registry.columns, c.WellFormed
  table : Clean q.base.table
  relation : q.relation.WellFormed

theorem clean_condition {m : TermMeaning} (ht : Clean table) (hc : c.CleanNames)
    (hm : m.CleanNames) : ∀ s ∈ (condition table c m).fields, Clean s := by
  cases m with
  | value t => exact Predicate.clean_ofTerm hc t
  | owners key ids =>
    intro s hs
    simp only [condition, ownedBy] at hs
    split at hs
    · simp [Predicate.fields] at hs
    · exact List.mem_singleton.mp hs ▸ ht.dot hm

theorem predicate_keeps {c : Column} (hq : q.WellFormed) (hc : c.WellFormed) (raw : String) :
    Keeps Association.IsAlignedLookup (fun o => ∀ f, o = some f → f.WellFormed)
      (q.predicate c raw) := by
  unfold predicate
  split
  · rename_i strategy hstrategy
    split
    · rename_i f hf
      exact .pure (by rintro g ⟨⟩; exact hc.search strategy raw f hstrategy hf)
    · exact .pure (by simp)
    · exact .ofExcept fun o ho => by cases ho
  · have hr : ∀ source table, q.reader.associations = some (source, table) →
        source.CleanNames := by
      rintro source table ⟨⟩
      exact hq.store
    refine .bind (TermReader.read_keeps hc.names raw hr) fun m hm => .pure ?_
    intro f hf
    obtain ⟨m, rfl, rfl⟩ := Option.map_eq_some_iff.mp hf
    exact Predicate.fragment_wellFormed _ _ (clean_condition hq.table hc.names (hm m rfl))

theorem push_wellFormed {r : Relation} {added : Column × Fragment} (hr : r.WellFormed)
    (hf : added.2.WellFormed) : (push r added).WellFormed := by
  unfold push
  split
  · exact { hr with
      filters := fun f hf => (List.mem_append.mp hf).elim (hr.filters f) (by simp_all) }
  · exact { hr with
      having := fun f hf => (List.mem_append.mp hf).elim (hr.having f) (by simp_all) }

theorem foldl_push_wellFormed {r : Relation} {added : List (Column × Fragment)}
    (hr : r.WellFormed) (hadded : ∀ t ∈ added, t.2.WellFormed) :
    (added.foldl push r).WellFormed := by
  induction added generalizing r with
  | nil => exact hr
  | cons t added ih =>
    exact ih (push_wellFormed hr (hadded t List.mem_cons_self)) fun u hu =>
      hadded u (List.mem_cons_of_mem _ hu)

theorem search_keeps (hq : q.WellFormed) (terms : List SearchTerm) :
    Keeps Association.IsAlignedLookup WellFormed (q.search terms) := by
  unfold search
  refine .bind (Q := fun _ => True) (.ofExcept fun _ _ => trivial) fun stage _ => ?_
  have hread : ∀ t ∈ q.registry.resolveTerms terms,
      Keeps Association.IsAlignedLookup (fun o => ∀ f, o = some f → f.WellFormed)
        (q.predicate t.1 t.2) := fun t ht =>
    predicate_keeps hq (hq.columns t.1 (Registry.mem_of_resolveTerms ht)) t.2
  refine .bind (Keeps.gather (S := fun _ f => f.WellFormed) hread) fun added hadded => .pure ?_
  exact { hq with relation := foldl_push_wellFormed hq.relation hadded }

theorem clean_orderTerms {c : Column} {d : SortDirection} {terms : List String}
    (hc : c.WellFormed) (h : q.orderTerms c d = .ok terms) : ∀ t ∈ terms, Clean t := by
  unfold orderTerms at h
  split at h
  · rename_i strategy hstrategy
    split at h
    · obtain rfl := Except.ok.inj h
      exact hc.order strategy d _ hstrategy ‹_›
    · cases h
  · obtain rfl := Except.ok.inj h
    intro t ht
    obtain ⟨term, hterm, rfl⟩ := List.mem_map.mp ht
    obtain ⟨key, hkey, hterm⟩ := List.mem_flatMap.mp hterm
    exact OrderTerm.clean_ofField (hc.names.sortKeys key hkey) hterm

theorem order_wellFormed {q' : RelationalQuery} {spec : Option OrderSpec} (hq : q.WellFormed)
    (h : q.order spec = .ok q') : q'.WellFormed := by
  obtain ⟨stage, -, h⟩ := ok_of_bind h
  obtain ⟨o, ho, h⟩ := ok_of_bind h
  cases o with
  | none =>
    obtain rfl := Except.ok.inj h
    exact { hq with }
  | some target =>
    obtain ⟨c, d⟩ := target
    obtain ⟨terms, hterms, h⟩ := ok_of_bind h
    obtain rfl := Except.ok.inj h
    have hclean := clean_orderTerms (hq.columns c (Registry.mem_of_resolveOrder ho)) hterms
    exact { hq with
      relation := { hq.relation with
        orderBy := fun t ht => (List.mem_append.mp ht).elim (hclean t) (hq.relation.orderBy t) } }

theorem paginate_wellFormed {q' : RelationalQuery} {w : PageWindow} (hq : q.WellFormed)
    (h : q.paginate w = .ok q') : q'.WellFormed := by
  obtain ⟨stage, -, h⟩ := ok_of_bind h
  obtain rfl := Except.ok.inj h
  exact { hq with relation := { hq.relation with } }

theorem write_keeps (hq : q.WellFormed) (call : WriteCall) :
    Keeps Association.IsAlignedLookup WellFormed (TableQuery.write q call) := by
  cases call with
  | search terms => exact search_keeps hq terms
  | order spec => exact .ofExcept fun _ => order_wellFormed hq
  | paginate w => exact .ofExcept fun _ => paginate_wellFormed hq

/-- However a query is written, each lookup has one value for each marker, and so have the
statements of the relation that is written in the end, which hold the values of its predicates in
their order. -/
theorem writeAll_aligned {store : RecordStore} {registry : Registry} {base : Relation}
    (hstore : store.toAssociationSource.CleanNames)
    (hcolumns : ∀ c ∈ registry.columns, c.WellFormed) (hbase : base.WellFormed)
    (calls : List WriteCall) :
    Keeps Association.IsAlignedLookup
      (fun q => ∀ f ∈ q.relation.statements, f.Aligned ∧ f.params = q.relation.values)
      (TableQuery.writeAll (start store registry base) calls) := by
  have hstart : (start store registry base).WellFormed := ⟨hstore, hcolumns, hbase.table, hbase⟩
  exact (TableQuery.writeAll_keeps (fun _ call hq => write_keeps hq call) hstart calls).mono
    fun q hq => Relation.statements_aligned hq.relation

theorem writeAll_aligned_posts :
    Blog.store.toAssociationSource.CleanNames ∧
    (∀ c ∈ Blog.registry.columns, c.WellFormed) ∧ Blog.posts.WellFormed ∧
    let q := TableQuery.writeAll (start Blog.store Blog.registry Blog.posts)
      [.search [("title", "it's why?"), ("comments", "who?")], .order (some { column := "title" }),
        .paginate ⟨2, 10⟩]
    Keeps Association.IsAlignedLookup
      (fun q => ∀ f ∈ q.relation.statements, f.Aligned ∧ f.params = q.relation.values) q ∧
    (q []).1.toOption.map (·.relation.select) = some {
      sql := "SELECT posts.* FROM posts WHERE ((posts.site_id = ?) AND " ++
        "((posts.title ILIKE ? ESCAPE '!') AND (posts.title ILIKE ? ESCAPE '!'))) AND " ++
        "(posts.id IN (?, ?)) ORDER BY posts.title ASC NULLS LAST LIMIT 10 OFFSET 10"
      params := [.integer 7, .text "%it's%", .text "%why?%", .integer 1, .integer 3] } := by
  have hcomments : Blog.comments.CleanNames :=
    ⟨by decide, by decide, by decide, by decide, by simp [Blog.comments], by simp [Blog.comments]⟩
  have hstore : Blog.store.toAssociationSource.CleanNames := by
    refine ⟨fun table name a ha => ?_, fun _ table columns hc c hm => ?_⟩
    · simp only [Blog.store] at ha
      split at ha
      · exact Option.some.inj ha ▸ hcomments
      · cases ha
    · obtain rfl := Except.ok.inj hc
      revert c
      decide
  have hcolumns : ∀ c ∈ Blog.registry.columns, c.WellFormed := by
    intro c hc
    simp only [Blog.registry, List.mem_cons, List.not_mem_nil, or_false] at hc
    rcases hc with rfl | rfl | rfl <;>
      exact ⟨⟨by decide, nofun, nofun, nofun⟩, nofun, nofun⟩
  have hposts : Blog.posts.WellFormed :=
    ⟨by decide, nofun, nofun, fun _ hf => List.mem_singleton.mp hf ▸ (by decide : Marked _ 1),
      nofun, nofun, nofun⟩
  exact ⟨hstore, hcolumns, hposts, writeAll_aligned hstore hcolumns hposts _, by decide +kernel⟩

end RelationalQuery
end TableView
