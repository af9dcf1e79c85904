import Mathlib.Data.String.Basic
import TableView.Fields

/-! Maps with string keys stay in ascending key order, so that what is in them and what is found in
them are the same. -/
namespace TableView.Fields
variable {α β : Type} {fs gs : Fields α} {key k : String} {v w : α}

/-- Keys go up, and so no key is there twice. -/
def Ascending (fs : Fields α) : Prop := fs.Pairwise fun e f => e.1 < f.1

theorem ascending_of_keys (ks : List String) (hks : ks.Pairwise (· < ·)) (h : fs.keys = ks) :
    fs.Ascending := by
  subst h
  exact List.pairwise_map.mp hks

theorem ascending_nil : Ascending ([] : Fields α) := List.Pairwise.nil

theorem mem_insert {e : String × α} (he : e ∈ fs.insert key v) : e = (key, v) ∨ e ∈ fs := by
  induction fs with
  | nil => exact Or.inl (List.mem_singleton.mp he)
  | cons f fs ih =>
    obtain ⟨k, w⟩ := f
    simp only [insert] at he
    split at he
    · exact List.mem_cons.mp he
    · split at he
      · exact (List.mem_cons.mp he).imp_right (List.mem_cons_of_mem _)
      · rcases List.mem_cons.mp he with he | he
        · exact Or.inr (he ▸ List.mem_cons_self)
        · exact (ih he).imp_right (List.mem_cons_of_mem _)

theorem Ascending.insert (hfs : fs.Ascending) (key : String) (v : α) :
    (fs.insert key v).Ascending := by
  induction fs with
  | nil => exact List.pairwise_singleton _ _
  | cons e fs ih =>
    obtain ⟨k, w⟩ := e
    obtain ⟨hk, hrest⟩ := List.pairwise_cons.mp hfs
    simp only [Fields.insert]
    split
    case isTrue hlt =>
      refine List.pairwise_cons.mpr ⟨fun f hf => ?_, hfs⟩
      rcases List.mem_cons.mp hf with rfl | hf
      · exact hlt
      · exact lt_trans hlt (hk f hf)
    case isFalse hge =>
      split
      case isTrue heq => exact List.pairwise_cons.mpr ⟨fun f hf => heq ▸ hk f hf, hrest⟩
      case isFalse hne =>
        refine List.pairwise_cons.mpr ⟨fun f hf => ?_, ih hrest⟩
        rcases mem_insert hf with rfl | hf
        · exact lt_of_le_of_ne (not_lt.mp hge) hne
        · exact hk f hf

theorem Ascending.erase (hfs : fs.Ascending) (key : String) : (fs.erase key).Ascending :=
  List.Pairwise.filter _ hfs

/-- Only the value that stood under the key makes way. -/
theorem Ascending.insert_perm (hfs : fs.Ascending) (key : String) (v : α) :
    (fs.insert key v).Perm ((key, v) :: Fields.erase fs key) := by
  induction fs with
  | nil => exact List.Perm.refl _
  | cons e fs ih =>
    obtain ⟨k, w⟩ := e
    obtain ⟨hk, hrest⟩ := List.pairwise_cons.mp hfs
    -- the keys go up, so past this entry none is equal
    have hkeep : key ≤ k → Fields.erase fs key = fs := fun hle =>
      List.filter_eq_self.mpr fun e he => bne_iff_ne.mpr (hle.trans_lt (hk e he)).ne'
    simp only [Fields.insert]
    split
    case isTrue hlt =>
      have herase : Fields.erase ((k, w) :: fs) key = (k, w) :: fs := by
        rw [Fields.erase, List.filter_cons_of_pos (by simpa using hlt.ne')]
        exact congrArg _ (hkeep hlt.le)
      rw [herase]
    case isFalse hge =>
      split
      case isTrue heq =>
        have herase : Fields.erase ((k, w) :: fs) key = fs := by
          rw [Fields.erase, List.filter_cons_of_neg (by simp [heq])]
          exact hkeep heq.ge
        rw [herase]
      case isFalse hne =>
        have herase : Fields.erase ((k, w) :: fs) key = (k, w) :: Fields.erase fs key :=
          List.filter_cons_of_pos (bne_iff_ne.mpr hne)
        rw [herase]
        exact ((ih hrest).cons _).trans (List.Perm.swap _ _ _)

/-- Of the entries of a map each is found under its key. -/
theorem Ascending.mem_iff (hfs : fs.Ascending) : (key, v) ∈ fs ↔ fs.get? key = some v := by
  induction fs with
  | nil => simp
  | cons e fs ih =>
    obtain ⟨k, w⟩ := e
    obtain ⟨hk, hrest⟩ := List.pairwise_cons.mp hfs
    rw [get?_cons, List.mem_cons, Prod.mk.injEq, ih hrest]
    split
    case isTrue heq =>
      have hnone : get? fs key ≠ some v := fun h =>
        lt_irrefl k (heq ▸ hk _ ((ih hrest).mpr h))
      simp [heq, hnone, eq_comm]
    case isFalse hne => simp [Ne.symm hne]

theorem get?_append (fs gs : Fields α) (key : String) :
    get? (fs ++ gs) key = (fs.get? key).or (gs.get? key) := by
  induction fs with
  | nil => rfl
  | cons e fs ih =>
    obtain ⟨k, v⟩ := e
    simp only [List.cons_append, get?_cons]
    split
    · rfl
    · exact ih

theorem get?_map (f : α → β) (fs : Fields α) (key : String) :
    get? (fs.map fun e => (e.1, f e.2)) key = (fs.get? key).map f := by
  induction fs with
  | nil => rfl
  | cons e fs ih =>
    obtain ⟨k, v⟩ := e
    simp only [List.map_cons, get?_cons, ih]
    split <;> rfl

theorem mem_of_get? (h : fs.get? key = some v) : (key, v) ∈ fs := by
  induction fs with
  | nil => cases h
  | cons e fs ih =>
    obtain ⟨k, w⟩ := e
    rw [get?_cons] at h
    split at h
    case isTrue heq =>
      obtain rfl := Option.some.inj h
      exact heq ▸ List.mem_cons_self
    case isFalse => exact List.mem_cons_of_mem _ (ih h)

theorem get?_eq_none_iff : fs.get? key = none ↔ ∀ e ∈ fs, e.1 ≠ key := by
  induction fs with
  | nil => simp
  | cons e fs ih =>
    obtain ⟨k, w⟩ := e
    rw [get?_cons]
    split
    case isTrue heq => simp [heq]
    case isFalse hne => simp [ih, hne]

/-- A value is found under its key when no other is there. -/
theorem get?_of_mem (hm : (key, v) ∈ fs) (hv : ∀ w, (key, w) ∈ fs → w = v) :
    fs.get? key = some v := by
  cases hg : fs.get? key with
  | none => exact absurd rfl (get?_eq_none_iff.mp hg _ hm)
  | some w => rw [hv w (mem_of_get? hg)]

section OfList
variable {es : List (String × α)}

theorem get?_ofList (es : List (String × α)) (key : String) :
    (ofList es).get? key = Fields.get? es.reverse key := by
  have hfold : ∀ acc : Fields α, Fields.get? (es.foldl (fun fs e => fs.insert e.1 e.2) acc) key =
      (Fields.get? es.reverse key).or (acc.get? key) := by
    induction es with
    | nil => exact fun _ => rfl
    | cons e es ih =>
      intro acc
      obtain ⟨k, v⟩ := e
      rw [List.foldl_cons, ih, List.reverse_cons, get?_append, get?_insert, Option.or_assoc,
        get?_cons, get?_nil]
      split <;> rfl
  rw [ofList, hfold, get?_nil, Option.or_none]

theorem ascending_ofList (es : List (String × α)) : (ofList es).Ascending := by
  have hfold : ∀ acc : Fields α, acc.Ascending →
      Ascending (es.foldl (fun fs e => fs.insert e.1 e.2) acc) := by
    induction es with
    | nil => exact fun _ hacc => hacc
    | cons e es ih => exact fun acc hacc => ih _ (hacc.insert e.1 e.2)
  exact hfold [] ascending_nil

theorem get?_ofList_of_mem (hm : (key, v) ∈ es) (hv : ∀ w, (key, w) ∈ es → w = v) :
    (ofList es).get? key = some v := by
  rw [get?_ofList]
  exact get?_of_mem (List.mem_reverse.mpr hm) fun w hw => hv w (List.mem_reverse.mp hw)

/-- The map of a function over some keys. -/
theorem get?_tabulate (f : String → α) (keys : List String) (key : String) :
    (ofList (keys.map fun k => (k, f k))).get? key = if key ∈ keys then some (f key) else none := by
  split
  case isTrue hm =>
    have hentry : (key, f key) ∈ keys.map fun k => (k, f k) := List.mem_map.mpr ⟨key, hm, rfl⟩
    apply get?_ofList_of_mem hentry
    intro w hw
    obtain ⟨k, -, he⟩ := List.mem_map.mp hw
    obtain ⟨rfl, rfl⟩ := Prod.mk.inj he
    rfl
  case isFalse hm =>
    rw [get?_ofList, get?_eq_none_iff]
    intro e he
    obtain ⟨k, hk, rfl⟩ := List.mem_map.mp (List.mem_reverse.mp he)
    exact fun h => hm (h ▸ hk)

theorem mem_of_mem_ofList {e : String × α} (he : e ∈ ofList es) : e ∈ es := by
  obtain ⟨k, v⟩ := e
  have hget := (ascending_ofList es).mem_iff.mp he
  rw [get?_ofList] at hget
  exact List.mem_reverse.mp (mem_of_get? hget)

end OfList

/-- Maps that answer the same are the same. -/
theorem Ascending.ext (hfs : fs.Ascending) (hgs : gs.Ascending)
    (h : ∀ key, fs.get? key = gs.get? key) : fs = gs := by
  have hmem : ∀ e, e ∈ fs ↔ e ∈ gs := by
    intro e
    rw [hfs.mem_iff, hgs.mem_iff, h]
  have hnodup : ∀ {hs : Fields α}, hs.Ascending → hs.Nodup := by
    intro hs hhs
    apply List.Pairwise.imp _ hhs
    rintro e f hlt rfl
    exact lt_irrefl _ hlt
  have hperm : fs.Perm gs := (List.perm_ext_iff_of_nodup (hnodup hfs) (hnodup hgs)).mpr hmem
  apply List.Perm.eq_of_pairwise _ hfs hgs hperm
  intro e f _ _ hlt hgt
  exact absurd (lt_trans hlt hgt) (lt_irrefl _)

/-- The entries of a map make the map again. -/
theorem Ascending.ofList_eq (hfs : fs.Ascending) : ofList fs = fs := by
  apply (ascending_ofList fs).ext hfs
  intro key
  cases hget : fs.get? key with
  | some v =>
    refine get?_ofList_of_mem (mem_of_get? hget) fun w hw => ?_
    exact Option.some.inj ((hfs.mem_iff.mp hw).symm.trans hget)
  | none =>
    rw [get?_ofList, get?_eq_none_iff]
    exact fun e he => get?_eq_none_iff.mp hget e (List.mem_reverse.mp he)

/-- For a map over keys it does not matter how often and in which order they come. -/
theorem tabulate_congr {f : String → α} {ks ls : List String} (h : ∀ k, k ∈ ks ↔ k ∈ ls) :
    ofList (ks.map fun k => (k, f k)) = ofList (ls.map fun k => (k, f k)) := by
  apply (ascending_ofList _).ext (ascending_ofList _)
  intro key
  simp only [get?_tabulate, h]

theorem contains_iff : fs.contains key = true ↔ ∃ v, fs.get? key = some v := by
  rw [contains, Option.isSome_iff_exists]

end TableView.Fields
