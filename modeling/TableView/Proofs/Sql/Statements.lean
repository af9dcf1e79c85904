import TableView.Proofs.Sql.Markers

/-! Statements whose markers and bound values agree, from the pieces they are put together of. -/
namespace TableView.Sql

variable {a b f : Fragment} {fs : List Fragment} {r : Relation} {s t word : String}

namespace Fragment

theorem WellFormed.pushText (hf : f.WellFormed) (ht : Clean t) : (f.pushText t).WellFormed :=
  hf.append_clean ht

theorem WellFormed.push (ha : a.WellFormed) (hb : b.WellFormed) : (a.push b).WellFormed := by
  have hblank : Clean (if a.isEmpty || b.isEmpty then "" else " ") := by
    split <;> decide
  simpa [WellFormed, Fragment.push] using (ha.append_clean hblank).append hb

theorem WellFormed.connect (hw : Clean word) (ha : a.WellFormed) (hb : b.WellFormed) :
    (connect word a b).WellFormed := by
  unfold WellFormed Fragment.connect
  rw [List.length_append]
  -- an empty side has no marker, so that it has no value either
  have hnone : ∀ {f : Fragment}, f.WellFormed → f.isEmpty → f.params.length = 0 := by
    intro f hf he
    have : f.sql = "" := by simpa [isEmpty] using he
    simpa [this, markers] using hf.2.symm
  split
  · rwa [hnone ha ‹_›, Nat.zero_add]
  · split
    · rwa [hnone hb ‹_›]
    · have hopen : Marked ("(" ++ a.sql) a.params.length :=
        Clean.append_marked (by decide) ha
      have hleft := ((hopen.append_clean (by decide : Clean ") ")).append_clean hw).append_clean
        (by decide : Clean " (")
      exact (hleft.append hb).append_clean (by decide : Clean ")")

theorem WellFormed.and (ha : a.WellFormed) (hb : b.WellFormed) : (a.and b).WellFormed :=
  ha.connect (by decide) hb

theorem WellFormed.or (ha : a.WellFormed) (hb : b.WellFormed) : (a.or b).WellFormed :=
  ha.connect (by decide) hb

theorem foldl_and_wellFormed (hf : f.WellFormed) (hfs : ∀ g ∈ fs, g.WellFormed) :
    (fs.foldl Fragment.and f).WellFormed := by
  induction fs generalizing f with
  | nil => exact hf
  | cons g fs ih =>
    exact ih (hf.and (hfs g List.mem_cons_self)) fun k hk => hfs k (List.mem_cons_of_mem _ hk)

theorem andAll?_wellFormed (hfs : ∀ g ∈ fs, g.WellFormed) (hf : andAll? fs = some f) :
    f.WellFormed := by
  cases fs with
  | nil => simp [andAll?, reduce?] at hf
  | cons g fs =>
    obtain rfl : fs.foldl Fragment.and g = f := by simpa [andAll?, reduce?] using hf
    exact foldl_and_wellFormed (hfs g List.mem_cons_self) fun k hk =>
      hfs k (List.mem_cons_of_mem _ hk)

@[simp] theorem connect_params : (connect word a b).params = a.params ++ b.params := rfl

@[simp] theorem push_params : (a.push b).params = a.params ++ b.params := rfl

@[simp] theorem pushText_params : (f.pushText t).params = f.params := rfl

theorem foldl_connect_params :
    (fs.foldl (connect word) f).params = f.params ++ fs.flatMap (·.params) := by
  induction fs generalizing f with
  | nil => simp
  | cons g fs ih =>
    rw [List.foldl_cons, ih]
    simp

theorem andAll?_params (hf : andAll? fs = some f) : f.params = fs.flatMap (·.params) := by
  cases fs with
  | nil => simp [andAll?, reduce?] at hf
  | cons g fs =>
    obtain rfl : fs.foldl Fragment.and g = f := by simpa [andAll?, reduce?] using hf
    exact foldl_connect_params

end Fragment

/-- The fields that a condition names. -/
def Predicate.fields : Predicate → List String
  | nothing | never => []
  | compare (.field name) _ _ | compare (.yearOf name) _ _ => [name]
  | sameText field _ | like field _ | blank field | isIn field _ => [field]
  | both a b | and a b | or a b => a.fields ++ b.fields

theorem clean_yearOf (hs : Clean s) (d : Dialect) : Clean (d.yearOf s) := by
  cases d with
  | sqlite =>
    exact (Clean.append (by decide : Clean "CAST(strftime('%Y', ") hs).append
      (by decide : Clean ") AS INTEGER)")
  | postgres | mysql =>
    exact (Clean.append (by decide : Clean "EXTRACT(YEAR FROM ") hs).append (by decide : Clean ")")

theorem Operand.clean_sql (left : Operand) (op : Comparison) (right : Param) (d : Dialect)
    (h : ∀ s ∈ (Predicate.compare left op right).fields, Clean s) : Clean (left.sql d) := by
  cases left with
  | field name => exact h name (by simp [Predicate.fields])
  | yearOf name => exact clean_yearOf (h name (by simp [Predicate.fields])) d

theorem Predicate.marked_likeText (caps : Capabilities) (hs : Clean s) :
    Marked (likeText caps s) 1 := by
  have htail : Marked " ? ESCAPE '!'" 1 := by decide
  unfold likeText
  split
  · exact (hs.append (by decide : Clean " ILIKE")).append_marked htail
  · exact ((Clean.append (by decide : Clean "LOWER(") hs).append
      (by decide : Clean ") LIKE")).append_marked htail

theorem Predicate.marked_inList (ids : List Int) (hs : Clean s) :
    Marked (inList s ids).sql ids.length := by
  have hopen := (hs.append (by decide : Clean " IN (")).append_marked (marked_markerList ids.length)
  simpa [inList, List.map_const'] using hopen.append_clean (by decide : Clean ")")

theorem Predicate.fragment_wellFormed (caps : Capabilities) (p : Predicate)
    (h : ∀ s ∈ p.fields, Clean s) : (p.fragment caps).WellFormed := by
  induction p with
  | nothing => exact clean_empty
  | never => exact (by decide : Clean "1 = 0")
  | compare left op right =>
    have hl := Operand.clean_sql left op right caps.dialect h
    have hop : Clean (" " ++ op.sql) := by cases op <;> decide
    simpa [fragment, Fragment.ofParam, Fragment.WellFormed, String.append_assoc] using
      (hl.append hop).append_marked (by decide : Marked " ?" 1)
  | sameText field value =>
    exact (Clean.append (by decide : Clean "LOWER(") (h field (by simp [fields]))).append_marked
      (by decide : Marked ") = LOWER(?)" 1)
  | like field pattern => exact marked_likeText caps (h field (by simp [fields]))
  | blank field =>
    have hf : Clean field := h field (by simp [fields])
    exact (((Clean.append (by decide : Clean "(") hf).append (by decide : Clean " = '' OR ")).append
      hf).append (by decide : Clean " IS NULL)")
  | isIn field ids =>
    have hlist := marked_inList ids (h field (by simp [fields]))
    simpa [fragment, inList, Fragment.WellFormed] using hlist
  | both a b iha ihb =>
    have ha := iha fun s hs => h s (List.mem_append_left _ hs)
    have hb := ihb fun s hs => h s (List.mem_append_right _ hs)
    simpa [fragment, Fragment.WellFormed] using
      (Marked.append_clean ha (by decide : Clean " AND ")).append hb
  | and a b iha ihb =>
    exact (iha fun s hs => h s (List.mem_append_left _ hs)).and
      (ihb fun s hs => h s (List.mem_append_right _ hs))
  | or a b iha ihb =>
    exact (iha fun s hs => h s (List.mem_append_left _ hs)).or
      (ihb fun s hs => h s (List.mem_append_right _ hs))

namespace Predicate

theorem mem_fields_foldl {op : Predicate → Predicate → Predicate} {p : Predicate}
    {ps : List Predicate} (hop : ∀ a b, (op a b).fields = a.fields ++ b.fields) :
    s ∈ (ps.foldl op p).fields ↔ s ∈ p.fields ∨ ∃ q ∈ ps, s ∈ q.fields := by
  induction ps generalizing p with
  | nil => simp
  | cons q ps ih => simp [ih, hop, or_assoc]

theorem fields_allOf {ps : List Predicate} (hs : s ∈ (allOf ps).fields) :
    ∃ q ∈ ps, s ∈ q.fields := by
  cases ps with
  | nil => simp [allOf, fields] at hs
  | cons p ps =>
    rcases (mem_fields_foldl fun _ _ => rfl).mp hs with hs | ⟨q, hq, hs⟩
    · exact ⟨p, List.mem_cons_self, hs⟩
    · exact ⟨q, List.mem_cons_of_mem _ hq, hs⟩

theorem fields_anyOf? {ps : List Predicate} {p : Predicate} (h : anyOf? ps = some p)
    (hs : s ∈ p.fields) : ∃ q ∈ ps, s ∈ q.fields := by
  cases ps with
  | nil => cases h
  | cons p ps =>
    obtain rfl := Option.some.inj h
    rcases (mem_fields_foldl fun _ _ => rfl).mp hs with hs | ⟨q, hq, hs⟩
    · exact ⟨p, List.mem_cons_self, hs⟩
    · exact ⟨q, List.mem_cons_of_mem _ hq, hs⟩

theorem fields_ofText {field : String} {m : TextMatch}
    (hs : s ∈ (ofText field m).fields) : s = field := by
  cases m with
  | blank | equals _ => exact List.mem_singleton.mp hs
  | allOf patterns =>
    obtain ⟨q, hq, hs⟩ := fields_allOf hs
    obtain ⟨pattern, -, rfl⟩ := List.mem_map.mp hq
    exact List.mem_singleton.mp hs

theorem fields_ofRange {c : ColumnData} {period : Period}
    (hs : s ∈ (ofRange c period).fields) : s = c.backendField := by
  unfold ofRange at hs
  split at hs <;> simpa [between, fields] using hs

/-- Terms put conditions on their column's own fields. -/
theorem fields_ofTerm {c : ColumnData} {term : ParsedTerm} (hs : s ∈ (ofTerm c term).fields) :
    s = c.backendField ∨ s = c.idField ∨ s = c.typeField := by
  cases term with
  | text m => exact Or.inl (fields_ofText hs)
  | range period => exact Or.inl (fields_ofRange hs)
  | noMatch => simp [ofTerm, fields] at hs
  | integer _ | decimal _ | cents _ | boolean _ | year _ | id _ =>
    exact Or.inl (List.mem_singleton.mp hs)
  | polymorphic _ _ =>
    simp only [ofTerm, fields, List.cons_append, List.nil_append, List.mem_cons, List.not_mem_nil,
      or_false] at hs
    exact Or.inr hs

end Predicate

theorem OrderTerm.clean_ofField {native nullsFirst : Bool} {d : SortDirection} {term : OrderTerm}
    (hs : Clean s) (ht : term ∈ ofField native nullsFirst d s) : Clean term.sql := by
  have hblank : Clean (s ++ " ") := hs.append (by decide)
  have hd : ∀ d : SortDirection, Clean d.sql := by intro d; cases d <;> decide
  unfold ofField at ht
  split at ht
  · obtain rfl := List.mem_singleton.mp ht
    exact (hblank.append (hd d)).append (by split <;> decide)
  · simp only [List.mem_cons, List.not_mem_nil, or_false] at ht
    rcases ht with rfl | rfl
    · exact ((Clean.append (by decide : Clean "(") hs).append
        (by decide : Clean " IS NULL) ")).append (hd _)
    · exact hblank.append (hd d)

/-- Clean names and clauses, and predicates that hold a value for each marker. -/
structure Relation.WellFormed (r : Relation) : Prop where
  table : Clean r.table
  projection : ∀ p, r.projection = some p → Clean p
  joins : ∀ j ∈ r.joins, Clean j
  filters : ∀ f ∈ r.filters, f.WellFormed
  groupBy : ∀ g ∈ r.groupBy, Clean g
  having : ∀ f ∈ r.having, f.WellFormed
  orderBy : ∀ o ∈ r.orderBy, Clean o

namespace Relation

/-- The values of the filters and then those of the having-predicates. -/
def values (r : Relation) : List Param :=
  r.filters.flatMap (·.params) ++ r.having.flatMap (·.params)

/-- All statements that are made of a relation. -/
def statements (r : Relation) : List Fragment := [r.select, r.count, r.groupSizes]

theorem pushWhere_wellFormed (hf : f.WellFormed) (hw : Clean word)
    (hfs : ∀ g ∈ fs, g.WellFormed) : (pushWhere f word fs).WellFormed := by
  unfold pushWhere
  split
  · exact (hf.pushText hw).push (Fragment.andAll?_wellFormed hfs ‹_›)
  · exact hf

theorem pushWhere_params : (pushWhere f word fs).params = f.params ++ fs.flatMap (·.params) := by
  unfold pushWhere
  split
  · simp [Fragment.andAll?_params ‹_›]
  · cases fs with
    | nil => simp
    | cons g fs => simp [Fragment.andAll?, Fragment.reduce?] at *

theorem pushList_wellFormed {texts : List String} (hf : f.WellFormed) (hw : Clean word)
    (ht : ∀ t ∈ texts, Clean t) : (pushList f word texts).WellFormed := by
  unfold pushList
  split
  · exact hf
  · exact hf.pushText (hw.append (clean_intercalate (by decide) ht))

@[simp] theorem pushList_params (texts : List String) :
    (pushList f word texts).params = f.params := by
  unfold pushList
  split <;> rfl

theorem pushNumber_wellFormed (hf : f.WellFormed) (hw : Clean word) (n : Option Nat) :
    (pushNumber f word n).WellFormed := by
  cases n with
  | none => exact hf
  | some n => exact hf.pushText (hw.append (clean_toString n))

@[simp] theorem pushNumber_params (n : Option Nat) : (pushNumber f word n).params = f.params := by
  cases n <;> rfl

theorem body_wellFormed (h : r.WellFormed) : r.body.WellFormed := by
  have hjoins : ∀ j ∈ r.joins.map (" " ++ ·), Clean j := by
    intro j hj
    obtain ⟨k, hk, rfl⟩ := List.mem_map.mp hj
    exact Clean.append (by decide) (h.joins k hk)
  have hfrom : Fragment.WellFormed
      { sql := "FROM " ++ r.table ++ String.join (r.joins.map (" " ++ ·)) } :=
    (Clean.append (by decide : Clean "FROM ") h.table).append (clean_join hjoins)
  have hwhere := pushWhere_wellFormed hfrom (by decide : Clean " WHERE") h.filters
  have hgroup := pushList_wellFormed hwhere (by decide : Clean " GROUP BY ") h.groupBy
  exact pushWhere_wellFormed hgroup (by decide) h.having

@[simp] theorem body_params (r : Relation) : r.body.params = r.values := by
  simp [body, pushWhere_params, values]

theorem select_wellFormed (h : r.WellFormed) : r.select.WellFormed := by
  have hlist : Clean r.selectList := by
    unfold selectList
    cases hp : r.projection with
    | none => exact h.table.append (by decide)
    | some p => exact h.projection p hp
  have hselect : Fragment.WellFormed { sql := "SELECT " ++ r.selectList } :=
    Clean.append (by decide : Clean "SELECT ") hlist
  have horder := pushList_wellFormed (hselect.push (body_wellFormed h))
    (by decide : Clean " ORDER BY ") h.orderBy
  exact pushNumber_wellFormed (pushNumber_wellFormed horder (by decide) _) (by decide) _

@[simp] theorem select_params (r : Relation) : r.select.params = r.values := by simp [select]

theorem groupSizes_wellFormed (h : r.WellFormed) : r.groupSizes.WellFormed :=
  Fragment.WellFormed.push (by decide : Clean "SELECT COUNT(*)") (body_wellFormed h)

@[simp] theorem groupSizes_params (r : Relation) : r.groupSizes.params = r.values := by
  simp [groupSizes]

theorem WellFormed.unpaged (h : r.WellFormed) : r.unpaged.WellFormed :=
  { h with orderBy := by simp [Relation.unpaged] }

@[simp] theorem unpaged_values (r : Relation) : r.unpaged.values = r.values := rfl

theorem count_wellFormed (h : r.WellFormed) : r.count.WellFormed := by
  unfold count
  split
  · have hinner := select_wellFormed h.unpaged
    exact (Clean.append_marked (by decide : Clean "SELECT COUNT(*) FROM (") hinner).append_clean
      (by decide : Clean ") AS datatable_count")
  · exact groupSizes_wellFormed h

@[simp] theorem count_params (r : Relation) : r.count.params = r.values := by
  unfold count
  split <;> simp

end Relation

/-- Each marker of a statement has its value, and rendering puts the dialect's placeholders in the
place of the markers, in order, while all else stays as it is. -/
structure Fragment.Aligned (f : Fragment) : Prop where
  wellFormed : f.WellFormed
  marks : (stretches false f.sql.toList).2.length = f.params.length
  text : marked (fun _ => ['?']) f.sql = f.sql
  rendered : ∀ d, f.render d = ⟨marked (fun k => (d.placeholder k).toList) f.sql, f.params⟩

theorem Fragment.WellFormed.aligned (h : f.WellFormed) : f.Aligned where
  wellFormed := h
  marks := stretches_length.trans h.2
  text := marked_question f.sql
  rendered d := by rw [← render_sql f d]; rfl

theorem Relation.statements_aligned (h : r.WellFormed) :
    ∀ f ∈ r.statements, f.Aligned ∧ f.params = r.values := by
  intro f hf
  simp only [statements, List.mem_cons, List.not_mem_nil, or_false] at hf
  rcases hf with rfl | rfl | rfl
  · exact ⟨(select_wellFormed h).aligned, select_params r⟩
  · exact ⟨(count_wellFormed h).aligned, count_params r⟩
  · exact ⟨(groupSizes_wellFormed h).aligned, groupSizes_params r⟩

end TableView.Sql
