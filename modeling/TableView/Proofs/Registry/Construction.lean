import Mathlib.Data.List.Forall2
import TableView.Proofs.Registry.Places
import TableView.Proofs.Store.Session

/-! Registries are built column by column, up to the first name that is taken or that the store does
not know. -/
namespace TableView

/-- A loop that fails does so at its first failing step. -/
theorem foldlM_eq_error {ε σ α : Type} {step : σ → α → Except ε σ} {s : σ} {xs : List α} {e : ε} :
    xs.foldlM step s = .error e ↔ ∃ before x after t, xs = before ++ x :: after ∧
      before.foldlM step s = .ok t ∧ step t x = .error e := by
  constructor
  · intro h
    induction xs generalizing s with
    | nil => cases h
    | cons x xs ih =>
      rw [List.foldlM_cons] at h
      rcases error_of_bind h with hx | ⟨t, ht, hrest⟩
      · exact ⟨[], x, xs, s, rfl, rfl, hx⟩
      · obtain ⟨before, y, after, u, rfl, hbefore, hy⟩ := ih hrest
        refine ⟨x :: before, y, after, u, rfl, ?_, hy⟩
        rw [List.foldlM_cons, ht]
        exact hbefore
  · rintro ⟨before, x, after, t, rfl, hbefore, hx⟩
    rw [List.foldlM_append, hbefore]
    show (step t x >>= _) = _
    rw [hx]
    rfl

namespace Registry
variable {α : Type} {make : α → Except Error Column} {r r' : Registry} {c : Column} {e : Error}
  {cs : List Column} {xs : List α} {names : List String} {name table : String}
  {s : AssociationSource} {columns : List (String × ColumnKind)}

/-- The columns decide the index. -/
theorem ext_columns (h : r.columns = r'.columns) : r = r' := by
  have hplaces : r.places = r'.places := by rw [r.inStep, r'.inStep, h]
  cases r
  cases r'
  subst h hplaces
  rfl

theorem add_eq_ok : r.add c = .ok r' ↔ c.name ∉ r.names ∧ r'.columns = r.columns ++ [c] := by
  unfold add
  split
  case isTrue h => simp [names, (r.isSome_place c.name).mp h]
  case isFalse h =>
    rw [isSome_place] at h
    constructor
    · rintro ⟨⟩
      exact ⟨h, rfl⟩
    · rintro ⟨-, hcolumns⟩
      exact congrArg _ (ext_columns hcolumns.symm)

theorem add_eq_error : r.add c = .error e ↔ c.name ∈ r.names ∧ e = .duplicateColumn c.name := by
  unfold add
  split
  case isTrue h => simp [names, (r.isSome_place c.name).mp h, eq_comm]
  case isFalse h =>
    rw [isSome_place] at h
    simp [names, h]

/-- Adds what is made of one more item. -/
def addMade (make : α → Except Error Column) (r : Registry) (x : α) : Except Error Registry := do
  r.add (← make x)

theorem columns_of_foldlM (h : xs.foldlM (addMade make) r = .ok r') :
    ∃ cs, List.Forall₂ (fun x c => make x = .ok c) xs cs ∧ r'.columns = r.columns ++ cs := by
  induction xs generalizing r with
  | nil =>
    cases h
    exact ⟨[], .nil, (List.append_nil _).symm⟩
  | cons x xs ih =>
    rw [List.foldlM_cons] at h
    obtain ⟨t, ht, hrest⟩ := ok_of_bind h
    obtain ⟨c, hc, hadd⟩ := ok_of_bind ht
    obtain ⟨cs, hcs, hcolumns⟩ := ih hrest
    refine ⟨c :: cs, .cons hc hcs, ?_⟩
    rw [hcolumns, (add_eq_ok.mp hadd).2, List.append_assoc, List.singleton_append]

theorem foldlM_of_distinct (hmade : List.Forall₂ (fun x c => make x = .ok c) xs cs)
    (hdistinct : ((r.columns ++ cs).map (·.name)).Nodup) :
    ∃ r', xs.foldlM (addMade make) r = .ok r' ∧ r'.columns = r.columns ++ cs := by
  induction hmade generalizing r with
  | nil => exact ⟨r, rfl, (List.append_nil _).symm⟩
  | @cons x c xs cs hc _ ih =>
    have hfresh : c.name ∉ r.names := by
      rw [List.map_append, List.map_cons, List.nodup_middle] at hdistinct
      exact fun h => (List.nodup_cons.mp hdistinct).1 (List.mem_append_left _ h)
    -- the registry with one more column exists, since adding it does not fail
    cases hadd : r.add c with
    | error e => exact absurd (add_eq_error.mp hadd).1 hfresh
    | ok t =>
      have ht := (add_eq_ok.mp hadd).2
      obtain ⟨r', hr', hcolumns⟩ := ih (r := t) (by rwa [ht, List.append_assoc])
      refine ⟨r', ?_, by rw [hcolumns, ht, List.append_assoc, List.singleton_append]⟩
      rw [List.foldlM_cons, addMade, hc]
      show (r.add c >>= _) = _
      rw [hadd]
      exact hr'

/-- A name that stands behind others, all different, of which it is one. -/
def FirstRepeat (names : List String) (name : String) : Prop :=
  ∃ before after, names = before ++ name :: after ∧ before.Nodup ∧ name ∈ before

/-- What is asked of a registry is answered by a list of columns with different names. -/
structure Holds (r : Registry) (cs : List Column) : Prop where
  columns : r.columns = cs
  names : r.names = cs.map (·.name)
  place : ∀ name i, r.places.lookup name = some i ↔ ∃ c, cs[i]? = some c ∧ c.name = name
  found : ∀ name c, r.lookup? name = some c ↔ c ∈ cs ∧ c.name = name
  missing : ∀ name, r.lookup? name = none ↔ name ∉ cs.map (·.name)
  terms : ∀ terms, (r.resolveTerms terms).map (fun t => (t.1.name, t.2)) =
    terms.filter fun t => t.1 ∈ cs.map (·.name)
  resolved : ∀ terms, ∀ t ∈ r.resolveTerms terms, t.1 ∈ cs

theorem holds_of_columns (h : r.columns = cs) : r.Holds cs := by
  subst h
  exact ⟨rfl, rfl, fun _ _ => place_eq_some, fun _ _ => lookup?_eq_some, fun _ => lookup?_eq_none,
    map_resolveTerms r, fun _ _ => mem_of_resolveTerms⟩

theorem forall₂_ok {cs ds : List Column} :
    List.Forall₂ (fun c d => (.ok c : Except Error Column) = .ok d) cs ds ↔ cs = ds := by
  simp only [Except.ok.injEq, List.forall₂_eq_eq_eq]

/-- Columns that are given whole are made by returning them. -/
theorem ofColumns_eq_foldlM (cs : List Column) : ofColumns cs = cs.foldlM (addMade .ok) {} := rfl

theorem columns_of_ofColumns (h : ofColumns cs = .ok r) : r.columns = cs := by
  rw [ofColumns_eq_foldlM] at h
  obtain ⟨ds, hds, hcolumns⟩ := columns_of_foldlM h
  rw [hcolumns, ← forall₂_ok.mp hds]
  rfl

theorem ofColumns_eq_ok : (∃ r, ofColumns cs = .ok r) ↔ (cs.map (·.name)).Nodup := by
  constructor
  · rintro ⟨r, hr⟩
    exact columns_of_ofColumns hr ▸ r.distinct
  · intro h
    obtain ⟨r, hr, -⟩ := foldlM_of_distinct (r := {}) (forall₂_ok.mpr (Eq.refl cs)) h
    exact ⟨r, hr⟩

theorem ofColumns_eq_error : ofColumns cs = .error e ↔
    ∃ name, FirstRepeat (cs.map (·.name)) name ∧ e = .duplicateColumn name := by
  rw [ofColumns, foldlM_eq_error]
  constructor
  · rintro ⟨before, c, after, t, rfl, ht, hadd⟩
    obtain ⟨hname, he⟩ := add_eq_error.mp hadd
    have hcolumns := columns_of_ofColumns ht
    refine ⟨c.name, ⟨before.map (·.name), after.map (·.name), ?_, ?_, ?_⟩, he⟩
    · rw [List.map_append, List.map_cons]
    · exact hcolumns ▸ t.distinct
    · rwa [names, hcolumns] at hname
  · rintro ⟨name, ⟨before, after, hsplit, hdistinct, hname⟩, rfl⟩
    obtain ⟨front, rest, rfl, rfl, hrest⟩ := List.map_eq_append_iff.mp hsplit
    obtain ⟨c, back, rfl, rfl, rfl⟩ := List.map_eq_cons_iff.mp hrest
    obtain ⟨t, ht⟩ := ofColumns_eq_ok.mpr hdistinct
    refine ⟨front, c, back, t, rfl, ht, add_eq_error.mpr ⟨?_, rfl⟩⟩
    rwa [names, columns_of_ofColumns ht]

/-- An association has the name, or a column of the table. -/
def Known (s : AssociationSource) (table : String) (columns : List (String × ColumnKind))
    (name : String) : Prop :=
  (s.association table name).isSome = true ∨ name ∈ columns.map Prod.fst

instance : Decidable (Known s table columns name) := inferInstanceAs (Decidable (_ ∨ _))

/-- A column that shows what a store knows by its name: an association, and where there is none, the
first column of the table. -/
structure Reflects (s : AssociationSource) (table : String) (columns : List (String × ColumnKind))
    (c : Column) : Prop where
  association : ∀ a, s.association table c.name = some a → c = associationColumn c.name a
  plain : s.association table c.name = none → ∃ kind,
    columns.find? (·.1 = c.name) = some (c.name, kind) ∧ c = ({} : ColumnOptions).define c.name kind

theorem name_associationColumn (name : String) (a : Association) :
    (associationColumn name a).name = name := by
  unfold associationColumn
  split
  · split <;> rfl
  · rfl
  · rfl

/-- All that becomes of a name: its column, or the error that names it. -/
theorem reflect_cases (s : AssociationSource) (table : String)
    (columns : List (String × ColumnKind)) (name : String) :
    (Known s table columns name ∧ ∃ c, reflect s table columns name = .ok c ∧ c.name = name ∧
      Reflects s table columns c) ∨
    (¬ Known s table columns name ∧
      reflect s table columns name = .error (.unknownField table name)) := by
  unfold reflect
  cases ha : s.association table name with
  | some a =>
    have hname := name_associationColumn name a
    refine Or.inl ⟨Or.inl (by rw [ha]; rfl), _, rfl, hname, ?_, ?_⟩
    · intro b hb
      rw [hname, ha] at hb
      rw [hname, Option.some.inj hb]
    · intro hnone
      rw [hname, ha] at hnone
      cases hnone
  | none =>
    cases hc : columns.find? (·.1 = name) with
    | some entry =>
      obtain ⟨n, kind⟩ := entry
      obtain rfl : n = name := by simpa using List.find?_some hc
      have hmem : n ∈ columns.map Prod.fst := List.mem_map_of_mem (List.mem_of_find?_eq_some hc)
      refine Or.inl ⟨Or.inr hmem, _, rfl, rfl, ?_, ?_⟩
      · intro b hb
        cases ha.symm.trans hb
      · exact fun _ => ⟨kind, hc, rfl⟩
    | none =>
      refine Or.inr ⟨?_, rfl⟩
      rintro (hsome | hmem)
      · rw [ha] at hsome
        cases hsome
      · obtain ⟨entry, hentry, rfl⟩ := List.mem_map.mp hmem
        simpa using List.find?_eq_none.mp hc entry hentry

theorem known_of_reflect (h : reflect s table columns name = .ok c) :
    Known s table columns name ∧ c.name = name ∧ Reflects s table columns c := by
  obtain ⟨hknown, d, hd, hrest⟩ | ⟨-, herror⟩ := reflect_cases s table columns name
  · obtain rfl := Except.ok.inj (hd.symm.trans h)
    exact ⟨hknown, hrest⟩
  · cases herror.symm.trans h

/-- Of names that the store knows each makes the column that shows it. -/
theorem exists_forall₂_reflect (h : ∀ n ∈ names, Known s table columns n) :
    ∃ cs, List.Forall₂ (fun n c => reflect s table columns n = .ok c) names cs := by
  induction names with
  | nil => exact ⟨[], .nil⟩
  | cons n names ih =>
    obtain ⟨cs, hcs⟩ := ih fun m hm => h m (List.mem_cons_of_mem n hm)
    obtain ⟨-, c, hc, -⟩ | ⟨hunknown, -⟩ := reflect_cases s table columns n
    · exact ⟨c :: cs, .cons hc hcs⟩
    · exact absurd (h n List.mem_cons_self) hunknown

theorem names_of_forall₂
    (h : List.Forall₂ (fun n c => reflect s table columns n = .ok c) names cs) :
    cs.map (·.name) = names ∧ (∀ c ∈ cs, Reflects s table columns c) ∧
      ∀ n ∈ names, Known s table columns n := by
  induction h with
  | nil => simp
  | @cons n c names cs hc _ ih =>
    obtain ⟨hknown, hname, hreflects⟩ := known_of_reflect hc
    obtain ⟨hnames, hshown, hall⟩ := ih
    exact ⟨by rw [List.map_cons, hname, hnames], List.forall_mem_cons.mpr ⟨hreflects, hshown⟩,
      List.forall_mem_cons.mpr ⟨hknown, hall⟩⟩

/-- Once the schema is read, the names decide whether a registry is built. -/
theorem foldlM_reflect_eq_ok : (∃ r, names.foldlM (addMade (reflect s table columns)) {} = .ok r) ↔
    names.Nodup ∧ ∀ n ∈ names, Known s table columns n := by
  constructor
  · rintro ⟨r, hr⟩
    obtain ⟨cs, hcs, hcolumns⟩ := columns_of_foldlM hr
    obtain ⟨hnames, -, hknown⟩ := names_of_forall₂ hcs
    refine ⟨?_, hknown⟩
    rw [← hnames, show cs = r.columns from hcolumns.symm]
    exact r.distinct
  · rintro ⟨hdistinct, hknown⟩
    obtain ⟨cs, hcs⟩ := exists_forall₂_reflect hknown
    obtain ⟨r, hr, -⟩ := foldlM_of_distinct (r := {}) hcs
      (by rw [show ({} : Registry).columns ++ cs = cs from rfl, (names_of_forall₂ hcs).1]
          exact hdistinct)
    exact ⟨r, hr⟩

/-- The first of the names that the store does not know or that stands before, and the error that it
makes. -/
def Offends (s : AssociationSource) (table : String) (columns : List (String × ColumnKind))
    (names : List String) (e : Error) : Prop :=
  ∃ before name after, names = before ++ name :: after ∧ before.Nodup ∧
    (∀ n ∈ before, Known s table columns n) ∧
    (¬ Known s table columns name ∧ e = .unknownField table name ∨
      name ∈ before ∧ e = .duplicateColumn name)

theorem addMade_reflect_eq_error : addMade (reflect s table columns) r name = .error e ↔
    ¬ Known s table columns name ∧ e = .unknownField table name ∨
      Known s table columns name ∧ name ∈ r.names ∧ e = .duplicateColumn name := by
  obtain ⟨hknown, c, hc, rfl, -⟩ | ⟨hunknown, herror⟩ := reflect_cases s table columns name
  · rw [addMade, hc]
    show r.add c = .error e ↔ _
    simp [add_eq_error, hknown]
  · rw [addMade, herror]
    show Except.error _ = _ ↔ _
    simp [hunknown, eq_comm]

theorem names_of_foldlM_reflect
    (h : names.foldlM (addMade (reflect s table columns)) {} = .ok r) : r.names = names := by
  obtain ⟨cs, hcs, hcolumns⟩ := columns_of_foldlM h
  rw [Registry.names, hcolumns]
  exact (names_of_forall₂ hcs).1

theorem foldlM_reflect_eq_error :
    names.foldlM (addMade (reflect s table columns)) {} = .error e ↔
      Offends s table columns names e := by
  rw [foldlM_eq_error]
  constructor
  · rintro ⟨before, name, after, t, rfl, ht, hname⟩
    obtain ⟨hdistinct, hknown⟩ := foldlM_reflect_eq_ok.mp ⟨t, ht⟩
    refine ⟨before, name, after, rfl, hdistinct, hknown, ?_⟩
    rw [addMade_reflect_eq_error, names_of_foldlM_reflect ht] at hname
    exact hname.imp_right And.right
  · rintro ⟨before, name, after, rfl, hdistinct, hknown, hname⟩
    obtain ⟨t, ht⟩ := foldlM_reflect_eq_ok.mpr ⟨hdistinct, hknown⟩
    refine ⟨before, name, after, t, rfl, ht, ?_⟩
    rw [addMade_reflect_eq_error, names_of_foldlM_reflect ht]
    exact hname.imp_right fun htaken => ⟨hknown name htaken.1, htaken⟩

variable {h : List Call}

/-- The schema is asked for once, and what it says decides the rest. -/
theorem ofStore_apply (s : AssociationSource) (table : String) (names : List String)
    (h : List Call) : ofStore s table names h =
      (s.columns h table >>= fun columns => names.foldlM (addMade (reflect s table columns)) {},
        h ++ [.columns table]) := by
  rw [ofStore, Session.bind_apply, Session.columns_apply]
  cases s.columns h table <;> rfl

theorem ofStore_eq_ok : (∃ r, (ofStore s table names h).1 = .ok r) ↔ ∃ columns,
    s.columns h table = .ok columns ∧ names.Nodup ∧ ∀ n ∈ names, Known s table columns n := by
  rw [ofStore_apply]
  constructor
  · rintro ⟨r, hr⟩
    obtain ⟨columns, hcolumns, hfold⟩ := ok_of_bind hr
    exact ⟨columns, hcolumns, foldlM_reflect_eq_ok.mp ⟨r, hfold⟩⟩
  · rintro ⟨columns, hcolumns, hnames⟩
    rw [hcolumns]
    exact foldlM_reflect_eq_ok.mpr hnames

theorem ofStore_eq_error : (ofStore s table names h).1 = .error e ↔
    s.columns h table = .error e ∨
      ∃ columns, s.columns h table = .ok columns ∧ Offends s table columns names e := by
  rw [ofStore_apply]
  cases hcolumns : s.columns h table with
  | error e' =>
    show Except.error e' = .error e ↔ _
    simp
  | ok columns =>
    show names.foldlM _ _ = _ ↔ _
    rw [foldlM_reflect_eq_error]
    simp

theorem holds_of_ofStore (hr : (ofStore s table names h).1 = .ok r) :
    ∃ columns cs, s.columns h table = .ok columns ∧ r.Holds cs ∧ cs.map (·.name) = names ∧
      ∀ c ∈ cs, Reflects s table columns c := by
  rw [ofStore_apply] at hr
  obtain ⟨columns, hcolumns, hfold⟩ := ok_of_bind hr
  obtain ⟨cs, hcs, hall⟩ := columns_of_foldlM hfold
  obtain ⟨hnames, hshown, -⟩ := names_of_forall₂ hcs
  exact ⟨columns, cs, hcolumns, holds_of_columns hall, hnames, hshown⟩

/-- A column that is given whole, or by its name, its kind and the settings chosen for it. -/
inductive Definition
  | column (c : Column)
  | define (name : String) (kind : ColumnKind) (o : ColumnOptions)

namespace Definition

def built : Definition → Column
  | column c => c
  | define name kind o => o.define name kind

def addTo (r : Registry) : Definition → Except Error Registry
  | column c => r.add c
  | define name kind o => r.define name kind o

theorem addTo_eq (r : Registry) (d : Definition) : d.addTo r = r.add d.built := by
  cases d <;> rfl

theorem foldlM_addTo (ds : List Definition) :
    ds.foldlM addTo {} = ofColumns (ds.map built) := by
  have hadd : addTo = fun r d => r.add d.built := funext₂ addTo_eq
  rw [ofColumns, List.foldlM_map, hadd]

/-- Every column can be given by its name and kind, with all settings chosen. -/
theorem exists_define (c : Column) : ∃ o, (define c.name c.kind o).built = c :=
  ⟨{ backendField := some c.backendField
     search := some c.search
     nullOrdering := some c.nullOrdering
     sortable := some c.sortable
     sortField := c.sortOverride
     typeField := c.typeOverride
     association := c.association
     searchStrategy := c.searchStrategy
     orderStrategy := c.orderStrategy }, rfl⟩

end Definition

/-- However columns are given, a registry of them is built just when their names differ, and else
the first name that is there before is the fault; it then finds each column under its own name. From
a schema, which is asked for once, one is built just when the schema is read and knows the names,
which all differ; of the names the first that is unknown or there before is the fault, and an
association goes before a column. -/
theorem built_of_distinct_names :
    (∀ ds : List Definition, ds.foldlM Definition.addTo {} = ofColumns (ds.map Definition.built)) ∧
    (∀ c : Column, ∃ o, (Definition.define c.name c.kind o).built = c) ∧
    (∀ cs : List Column,
      ((∃ r, ofColumns cs = .ok r) ↔ (cs.map (·.name)).Nodup) ∧
      (∀ r, ofColumns cs = .ok r → r.Holds cs) ∧
      ∀ e, ofColumns cs = .error e ↔
        ∃ name, FirstRepeat (cs.map (·.name)) name ∧ e = .duplicateColumn name) ∧
    ∀ (s : AssociationSource) (table : String) (names : List String) (h : List Call),
      (ofStore s table names h).2 = h ++ [.columns table] ∧
      ((∃ r, (ofStore s table names h).1 = .ok r) ↔ ∃ columns,
        s.columns h table = .ok columns ∧ names.Nodup ∧ ∀ n ∈ names, Known s table columns n) ∧
      (∀ r, (ofStore s table names h).1 = .ok r → ∃ columns cs,
        s.columns h table = .ok columns ∧ r.Holds cs ∧ cs.map (·.name) = names ∧
          ∀ c ∈ cs, Reflects s table columns c) ∧
      ∀ e, (ofStore s table names h).1 = .error e ↔ s.columns h table = .error e ∨
        ∃ columns, s.columns h table = .ok columns ∧ Offends s table columns names e :=
  ⟨Definition.foldlM_addTo, Definition.exists_define,
    fun _ => ⟨ofColumns_eq_ok, fun _ hr => holds_of_columns (columns_of_ofColumns hr),
      fun _ => ofColumns_eq_error⟩,
    fun s table names h => ⟨congrArg Prod.snd (ofStore_apply s table names h), ofStore_eq_ok,
      fun _ => holds_of_ofStore, fun _ => ofStore_eq_error⟩⟩
end Registry

/-- Posts have a title and an author, who is also an association. -/
def Blog.authored : AssociationSource where
  association table name :=
    if table = "posts" ∧ name = "author" then
      some {
        name := "author"
        kind := .belongsTo
        relatedTable := "users"
        foreignKey := "author_id" }
    else none
  columns _ table :=
    if table = "posts" then .ok [("title", .string), ("author", .integer)]
    else .error (.queryFailed "database" ("no table " ++ table))
  pluckIds _ _ := .ok []

open Registry in
/-- The association goes before the column of its name, and the first fault counts, not the
worst. -/
theorem Registry.built_of_distinct_names_authored :
    (∃ r c, ofStore Blog.authored "posts" ["title", "author"] [] = (.ok r, [.columns "posts"]) ∧
      r.names = ["title", "author"] ∧ r.lookup? "author" = some c ∧ c.backendField = "author_id") ∧
    (ofStore Blog.authored "posts" ["title", "author", "title", "ghost"] []).1 =
      .error (.duplicateColumn "title") ∧
    (ofStore Blog.authored "posts" ["title", "ghost", "title"] []).1 =
      .error (.unknownField "posts" "ghost") ∧
    ∀ c : Column, ofColumns [c, c] = .error (.duplicateColumn c.name) ∧
      ∃ r, ofColumns [c] = .ok r ∧ r.lookup? c.name = some c := by
  obtain ⟨-, -, hcolumns, hstore⟩ := built_of_distinct_names
  refine ⟨?_, ?_, ?_, fun c => ⟨?_, ?_⟩⟩
  · obtain ⟨hcalls, hbuilt, hholds, -⟩ := hstore Blog.authored "posts" ["title", "author"] []
    obtain ⟨r, hr⟩ := hbuilt.mpr ⟨_, rfl, by decide, by decide⟩
    obtain ⟨columns, cs, -, hr', hnames, hshown⟩ := hholds r hr
    obtain ⟨c, hc, hname⟩ : ∃ c ∈ cs, c.name = "author" :=
      List.mem_map.mp (hnames ▸ by decide : "author" ∈ cs.map (·.name))
    refine ⟨r, c, Prod.ext hr hcalls, hr'.names.trans hnames, (hr'.found _ _).mpr ⟨hc, hname⟩, ?_⟩
    rw [(hshown c hc).association _ (by rw [hname]; rfl)]
    rfl
  · refine ((hstore _ _ _ _).2.2.2 _).mpr
      (Or.inr ⟨_, rfl, ["title", "author"], "title", ["ghost"], rfl, ?_⟩)
    exact ⟨by decide, by decide, Or.inr ⟨by decide, rfl⟩⟩
  · refine ((hstore _ _ _ _).2.2.2 _).mpr
      (Or.inr ⟨_, rfl, ["title"], "ghost", ["title"], rfl, ?_⟩)
    exact ⟨by decide, by decide, Or.inl ⟨by decide, rfl⟩⟩
  · refine ((hcolumns _).2.2 _).mpr ⟨c.name, ⟨[c.name], [], rfl, ?_, ?_⟩, rfl⟩ <;> simp
  · obtain ⟨r, hr⟩ := (hcolumns [c]).1.mpr (by simp)
    exact ⟨r, hr, (((hcolumns [c]).2.1 r hr).found _ _).mpr ⟨by simp, rfl⟩⟩

end TableView
