import TableView.Request
import TableView.Store.Basic

/-! The columns of a table view, by name. -/
namespace TableView

/-- The columns in the order of their definition, and an index of their names. -/
structure Registry where
  columns : List Column := []
  /-- The place of each column in that order, by its name. -/
  places : List (String × Nat) := (columns.map (·.name)).zipIdx
  distinct : (columns.map (·.name)).Nodup := by simp
  inStep : places = (columns.map (·.name)).zipIdx := by rfl

namespace Registry

def lookup? (r : Registry) (name : String) : Option Column :=
  (r.places.lookup name).bind fun i => r.columns[i]?

def names (r : Registry) : List String := r.columns.map (·.name)

/-- A name has a place just when a column has the name. -/
theorem isSome_place (r : Registry) (name : String) :
    (r.places.lookup name).isSome = true ↔ name ∈ r.columns.map (·.name) := by
  rw [r.inStep, List.lookup_isSome_iff, List.mem_iff_getElem?]
  constructor
  · rintro ⟨⟨n, i⟩, hmem, hname⟩
    obtain rfl := eq_of_beq hname
    exact ⟨i, List.mk_mem_zipIdx_iff_getElem?.mp hmem⟩
  · rintro ⟨i, hi⟩
    exact ⟨(name, i), List.mk_mem_zipIdx_iff_getElem?.mpr hi, beq_self_eq_true name⟩

/-- Adds a column behind the others, unless its name has a place already. -/
def add (r : Registry) (c : Column) : Except Error Registry :=
  if h : (r.places.lookup c.name).isSome = true then .error (.duplicateColumn c.name)
  else .ok {
    columns := r.columns ++ [c]
    places := r.places ++ [(c.name, r.columns.length)]
    distinct := by
      rw [r.isSome_place] at h
      rw [List.map_append, List.nodup_append]
      refine ⟨r.distinct, by simp, fun a ha b hb he => h ?_⟩
      simp only [List.map_cons, List.map_nil, List.mem_singleton] at hb
      exact hb ▸ he ▸ ha
    inStep := by
      rw [r.inStep, List.map_append, List.zipIdx_append]
      simp }

def ofColumns (columns : List Column) : Except Error Registry := columns.foldlM add {}

def define (r : Registry) (name : String) (kind : ColumnKind) (o : ColumnOptions) :
    Except Error Registry :=
  r.add (o.define name kind)

/-- The terms on known columns, each with its column; the others drop out. -/
def resolveTerms (r : Registry) (terms : List SearchTerm) : List (Column × String) :=
  terms.filterMap fun (name, raw) => (r.lookup? name).map fun c => (c, raw)

/-- The column to sort by; an order on an unknown column counts as none. -/
def resolveOrder (r : Registry) (spec : Option OrderSpec) :
    Except Error (Option (Column × SortDirection)) :=
  match spec with
  | none => .ok none
  | some spec =>
    match r.lookup? spec.column with
    | none => .ok none
    | some c => if c.sortable then .ok (some (c, spec.direction)) else .error (.notSortable c.name)

/-- The column by which a table shows an association. -/
def associationColumn (name : String) (a : Association) : Column :=
  match a.kind with
  | .belongsTo =>
    let o : ColumnOptions := { backendField := some a.foreignKey }
    match a.polymorphic with
    | some link => { o with typeField := some link.typeColumn }.define name .polymorphic
    | none => o.define name .foreignKey
  | .hasMany => ({} : ColumnOptions).define name .oneToMany
  | .manyToMany => ({} : ColumnOptions).define name .manyToMany

/-- The column for a name: an association goes before a column of the table. -/
def reflect (s : AssociationSource) (table : String) (columns : List (String × ColumnKind))
    (name : String) : Except Error Column :=
  match s.association table name with
  | some a => .ok (associationColumn name a)
  | none =>
    match columns.find? (·.1 = name) with
    | some (_, kind) => .ok (({} : ColumnOptions).define name kind)
    | none => .error (.unknownField table name)

/-- Columns for the given names, as the store's schema has them. -/
def ofStore (s : AssociationSource) (table : String) (names : List String) :
    Session Registry := do
  let columns ← Session.columns s table
  Session.ofExcept (names.foldlM (fun r name => do r.add (← reflect s table columns name)) {})

end Registry
end TableView
