import TableView.Proofs.Store.Session

/-! What a relationship term asks the store, and what becomes of the answer. -/
namespace TableView
open Sql

variable {s : AssociationSource} {table raw : String} {c : ColumnData} {h h' : List Call}

/-- A question about the columns of a table, or for the ids of rows. -/
def Call.IsLookup : Call → Prop
  | .columns _ | .pluckIds _ => True
  | _ => False

namespace Association
variable {a : Association} {mode : AssociationMode} {p : Predicate}

/-- The related fields that a text is sought in: the given one, else all textual columns. -/
def searched (columns : List (String × ColumnKind)) : Option String → List String
  | some field => [field]
  | none => (columns.filter fun c => c.2.isTextual).map Prod.fst

/-- What a term asks about the schema: only a text sought in all columns needs to know them. -/
def questions (a : Association) (raw : String) : AssociationMode → List Call
  | .textSearch none => if Text.lower (Text.trim raw) = "" then [] else [.columns a.relatedTable]
  | _ => []

theorem columns_of_questions (a : Association) {call : Call}
    (hcall : call ∈ a.questions raw mode) : ∃ t, call = .columns t := by
  unfold questions at hcall
  split at hcall
  · split at hcall
    · cases hcall
    · exact ⟨_, List.mem_singleton.mp hcall⟩
  · cases hcall

theorem searchedFields_none (s : AssociationSource) (a : Association) (h : List Call) :
    searchedFields s a none h =
      ((s.columns h a.relatedTable).map (searched · none), h ++ [.columns a.relatedTable]) :=
  Session.map_apply (Session.columns s a.relatedTable) _ h

theorem related?_ids (s : AssociationSource) (a : Association) (raw : String) (h : List Call) :
    (parseIds raw = [] ∧ a.related? s .idList raw h = (.ok none, h)) ∨
    (parseIds raw ≠ [] ∧
      a.related? s .idList raw h = (.ok (some (.isIn a.relatedId (parseIds raw))), h)) := by
  simp only [related?]
  cases parseIds raw with
  | nil => exact Or.inl ⟨rfl, rfl⟩
  | cons n ids => exact Or.inr ⟨List.cons_ne_nil n ids, rfl⟩

theorem related?_blank {field : Option String} (hblank : Text.lower (Text.trim raw) = "") :
    a.related? s (.textSearch field) raw h = (.ok none, h) := by
  simp only [related?, if_pos hblank]
  rfl

theorem related?_text {field : Option String} (hsought : Text.lower (Text.trim raw) ≠ "") :
    a.related? s (.textSearch field) raw h =
      ((searchedFields s a field h).1.map fun fields =>
          Predicate.anyOf? (fields.map (a.contains (Text.lower (Text.trim raw)))),
        (searchedFields s a field h).2) := by
  simp only [related?, if_neg hsought]
  exact Session.map_apply ..

/-- Whatever the condition on related rows is, no more is asked for it. -/
theorem related?_calls (a : Association) (mode : AssociationMode) (raw : String) :
    (a.related? s mode raw h).2 = h ++ a.questions raw mode := by
  cases mode with
  | idList =>
    obtain ⟨-, hids⟩ | ⟨-, hids⟩ := related?_ids s a raw h <;> simp [hids, questions]
  | textSearch field =>
    by_cases hneedle : Text.lower (Text.trim raw) = ""
    · rw [related?_blank hneedle]
      cases field <;> simp [questions, hneedle]
    · rw [related?_text hneedle]
      cases field with
      | some f => simp [searchedFields, questions]
      | none => simp [searchedFields_none, questions, hneedle]

theorem related?_lookups (a : Association) (mode : AssociationMode) (raw : String) :
    Session.Keeps Call.IsLookup (fun _ => True) (a.related? s mode raw) := by
  refine fun h => ⟨⟨_, related?_calls a mode raw, fun call hcall => ?_⟩, fun _ _ => trivial⟩
  obtain ⟨t, rfl⟩ := a.columns_of_questions hcall
  trivial

/-- A term that restricts the related rows lists ids, or its text is sought in some fields. -/
theorem related?_cases (hp : (a.related? s mode raw h).1 = .ok (some p)) :
    (mode = .idList ∧ p = .isIn a.relatedId (parseIds raw)) ∨
    ∃ field fields, mode = .textSearch field ∧ (searchedFields s a field h).1 = .ok fields ∧
      Predicate.anyOf? (fields.map (a.contains (Text.lower (Text.trim raw)))) = some p := by
  cases mode with
  | idList =>
    obtain ⟨-, hids⟩ | ⟨-, hids⟩ := related?_ids s a raw h
    · rw [hids] at hp
      cases hp
    · rw [hids] at hp
      exact Or.inl ⟨rfl, (Option.some.inj (Except.ok.inj hp)).symm⟩
  | textSearch field =>
    by_cases hneedle : Text.lower (Text.trim raw) = ""
    · rw [related?_blank hneedle] at hp
      cases hp
    · rw [related?_text hneedle] at hp
      obtain ⟨fields, hfields, hp⟩ := ok_of_map hp
      exact Or.inr ⟨field, fields, rfl, hfields, hp⟩

/-- All that resolving can do: one query for ids at most, and none where the term does not restrict
the related rows. -/
theorem resolve_apply (s : AssociationSource) (table : String) (c : ColumnData) (raw : String)
    (h : List Call) :
    resolve s table c raw h =
      match s.association table c.associationName with
      | none => (.error (.associationNotFound table c.associationName), h)
      | some a =>
        let asked := h ++ a.questions raw c.associationMode
        match (a.related? s c.associationMode raw h).1 with
        | .error e => (.error e, asked)
        | .ok none => (.ok .unfiltered, asked)
        | .ok (some p) =>
          ((s.pluckIds asked (a.ownerQuery p)).map fun ids => .owners a.ownerField (sortIds ids),
            asked ++ [.pluckIds (a.ownerQuery p)]) := by
  unfold resolve
  cases s.association table c.associationName with
  | none => rfl
  | some a =>
    have hasked := related?_calls (s := s) (h := h) a c.associationMode raw
    simp only [Session.bind_apply]
    rcases hrelated : a.related? s c.associationMode raw h with ⟨e | _ | p, asked⟩
    all_goals
      rw [hrelated] at hasked
      obtain rfl : asked = h ++ a.questions raw c.associationMode := hasked
    · rfl
    · rfl
    · exact Session.map_apply ..

/-- A term that resolves to owners has asked for them by the query on its related rows. -/
theorem owners_of_resolve {key : String} {owners : List Int}
    (hr : resolve s table c raw h = (.ok (.owners key owners), h')) :
    ∃ a p, s.association table c.associationName = some a ∧
      (a.related? s c.associationMode raw h).1 = .ok (some p) ∧ key = a.ownerField ∧
      h' = h ++ a.questions raw c.associationMode ++ [.pluckIds (a.ownerQuery p)] := by
  rw [resolve_apply] at hr
  split at hr
  · cases hr
  · rename_i a ha
    dsimp only at hr
    split at hr
    · cases hr
    · cases hr
    · rename_i p hp
      obtain ⟨hids, rfl⟩ := Prod.mk.inj hr
      obtain ⟨ids, -, howners⟩ := ok_of_map hids
      exact ⟨a, p, ha, hp, (Resolution.owners.inj howners).1.symm, rfl⟩

theorem unfiltered_of_resolve (hr : resolve s table c raw h = (.ok .unfiltered, h')) :
    ∃ a, s.association table c.associationName = some a ∧
      h' = h ++ a.questions raw c.associationMode := by
  rw [resolve_apply] at hr
  split at hr
  · cases hr
  · rename_i a ha
    dsimp only at hr
    split at hr
    · cases hr
    · exact ⟨a, ha, (Prod.mk.inj hr).2.symm⟩
    · obtain ⟨_, -, howners⟩ := ok_of_map (Prod.mk.inj hr).1
      cases howners

/-- Whatever becomes of a term, nothing is asked but what lookups are for. -/
theorem resolve_lookups : Session.Keeps Call.IsLookup (fun _ => True) (resolve s table c raw) := by
  unfold resolve
  split
  · exact .throw _
  · refine .bind (related?_lookups _ _ _) fun p? _ => ?_
    cases p? with
    | none => exact .pure trivial
    | some p =>
      exact .bind (Q := fun _ => True) (.ask trivial fun _ _ _ => trivial) fun _ _ => .pure trivial

end Association

namespace TermReader
variable {reader : TermReader} {source : AssociationSource} {m : Option TermMeaning}

/-- All that reading a term can do: only what finds owners asks for ids. -/
theorem read_cases (hr : reader.associations = some (source, table))
    (hm : reader.read c raw h = (.ok m, h')) :
    (m = none ∧ ∃ asked, h' = h ++ asked ∧ ∀ call ∈ asked, ∃ t, call = .columns t) ∨
    (∃ t, m = some (.value t) ∧ h' = h) ∨
    ∃ a p ids, source.association table c.associationName = some a ∧
      (a.related? source c.associationMode raw h).1 = .ok (some p) ∧
      m = some (.owners a.ownerField ids) ∧
      h' = h ++ a.questions raw c.associationMode ++ [.pluckIds (a.ownerQuery p)] := by
  unfold read at hm
  split at hm
  · simp only [readRelationship, hr] at hm
    obtain ⟨resolution, g, hg, hm⟩ := Session.bind_eq_ok.mp hm
    cases resolution with
    | unfiltered =>
      cases hm
      obtain ⟨a, -, hh⟩ := Association.unfiltered_of_resolve hg
      exact Or.inl ⟨rfl, _, hh, fun _ => a.columns_of_questions⟩
    | owners key ids =>
      cases hm
      obtain ⟨a, p, ha, hp, rfl, hh⟩ := Association.owners_of_resolve hg
      exact Or.inr (Or.inr ⟨a, p, ids, ha, hp, rfl, hh⟩)
  · obtain ⟨hv, rfl⟩ := Prod.mk.inj hm
    unfold readValue at hv
    split at hv
    · exact Or.inr (Or.inl ⟨_, (Except.ok.inj hv).symm, rfl⟩)
    · cases hv
    · exact Or.inl ⟨(Except.ok.inj hv).symm, [], by simp, by simp⟩

theorem read_lookups : Session.Keeps Call.IsLookup (fun _ => True) (reader.read c raw) := by
  unfold read
  split
  · unfold readRelationship
    split
    · exact .pure trivial
    · refine .bind Association.resolve_lookups fun resolution _ => ?_
      cases resolution <;> exact .pure trivial
  · exact .ofExcept fun _ _ => trivial

theorem columns_of_read (hr : reader.associations = some (source, table))
    (hm : reader.read c raw h = (.ok m, h')) (hn : ∀ key ids, m ≠ some (.owners key ids)) :
    ∃ asked, h' = h ++ asked ∧ ∀ call ∈ asked, ∃ t, call = .columns t := by
  obtain ⟨-, hasked⟩ | ⟨t, -, rfl⟩ | ⟨a, p, ids, -, -, ho, -⟩ := read_cases hr hm
  · exact hasked
  · exact ⟨[], by simp, by simp⟩
  · exact absurd ho (hn _ _)

theorem ids_of_read {key : String} {ids : List Int}
    (hr : reader.associations = some (source, table))
    (hm : reader.read c raw h = (.ok (some (.owners key ids)), h')) :
    ∃ a p, source.association table c.associationName = some a ∧
      (a.related? source c.associationMode raw h).1 = .ok (some p) ∧ key = a.ownerField ∧
      h' = h ++ a.questions raw c.associationMode ++ [.pluckIds (a.ownerQuery p)] := by
  obtain ⟨hn, -⟩ | ⟨t, ht, -⟩ | ⟨a, p, ids', ha, hp, ho, hh⟩ := read_cases hr hm
  · cases hn
  · cases ht
  · cases ho
    exact ⟨a, p, ha, hp, rfl, hh⟩

end TermReader
end TableView
