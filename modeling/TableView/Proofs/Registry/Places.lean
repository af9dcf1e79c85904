import Mathlib.Data.List.Nodup
import TableView.Registry

/-! The index of names keeps in step with the columns: a name leads to the one column that has
it. -/
namespace TableView.Registry
variable {r : Registry} {c : Column} {name raw : String} {i : Nat} {terms : List SearchTerm}

theorem getElem?_of_place (h : r.places.lookup name = some i) :
    (r.columns.map (·.name))[i]? = some name := by
  obtain ⟨before, after, heq, -⟩ := List.lookup_eq_some_iff.mp h
  have hmem : (name, i) ∈ r.places := heq ▸ List.mem_append_right _ List.mem_cons_self
  rwa [r.inStep, List.mk_mem_zipIdx_iff_getElem?] at hmem

/-- The place of a name is that of the column with the name. -/
theorem place_eq_some :
    r.places.lookup name = some i ↔ ∃ c, r.columns[i]? = some c ∧ c.name = name := by
  rw [← Option.map_eq_some_iff, ← List.getElem?_map]
  refine ⟨getElem?_of_place, fun hi => ?_⟩
  have hsome := (r.isSome_place name).mpr (List.mem_of_getElem? hi)
  obtain ⟨j, hj⟩ := Option.isSome_iff_exists.mp hsome
  -- no two columns have the name, so that there is one place for it
  have hlt := (List.getElem?_eq_some_iff.mp hi).1
  have hij : i = j :=
    (List.getElem?_inj hlt r.distinct).mp (hi.trans (getElem?_of_place hj).symm)
  rw [hj, hij]

theorem lookup?_eq_some : r.lookup? name = some c ↔ c ∈ r.columns ∧ c.name = name := by
  rw [lookup?, Option.bind_eq_some_iff]
  constructor
  · rintro ⟨i, hi, hc⟩
    obtain ⟨d, hd, hname⟩ := place_eq_some.mp hi
    obtain rfl : c = d := Option.some.inj (hc.symm.trans hd)
    exact ⟨List.mem_of_getElem? hc, hname⟩
  · rintro ⟨hc, hname⟩
    obtain ⟨i, hi⟩ := List.mem_iff_getElem?.mp hc
    exact ⟨i, place_eq_some.mpr ⟨c, hi, hname⟩, hi⟩

theorem lookup?_eq_none : r.lookup? name = none ↔ name ∉ r.names := by
  simp only [Option.eq_none_iff_forall_ne_some, ne_eq, lookup?_eq_some, names, List.mem_map,
    not_exists]

theorem mem_of_lookup? (h : r.lookup? name = some c) : c ∈ r.columns := (lookup?_eq_some.mp h).1

theorem mem_of_resolveTerms {t : Column × String} (ht : t ∈ r.resolveTerms terms) :
    t.1 ∈ r.columns := by
  obtain ⟨⟨name, raw⟩, -, ht⟩ := List.mem_filterMap.mp ht
  obtain ⟨c, hc, rfl⟩ := Option.map_eq_some_iff.mp ht
  exact mem_of_lookup? hc

/-- The terms that are left are those on known columns, in their order. -/
theorem map_resolveTerms (r : Registry) (terms : List SearchTerm) :
    (r.resolveTerms terms).map (fun t => (t.1.name, t.2)) =
      terms.filter fun t => t.1 ∈ r.names := by
  induction terms with
  | nil => rfl
  | cons t terms ih =>
    obtain ⟨name, raw⟩ := t
    rw [resolveTerms] at ih ⊢
    cases hc : r.lookup? name with
    | none =>
      have hname := lookup?_eq_none.mp hc
      simp only [List.filterMap_cons, hc, Option.map_none, ih, hname, decide_false,
        List.filter_cons, Bool.false_eq_true, if_false]
    | some c =>
      obtain ⟨hmem, rfl⟩ := lookup?_eq_some.mp hc
      have hname : c.name ∈ r.names := List.mem_map_of_mem hmem
      simp only [List.filterMap_cons, hc, Option.map_some, List.map_cons, ih, hname, decide_true,
        List.filter_cons, if_true]

end TableView.Registry
