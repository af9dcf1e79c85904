import TableView.Column.Codec
import TableView.Proofs.Json.Reading

/-! A column definition that is written down is read as it was. -/
namespace TableView
open Json

namespace Json
variable {α β : Type} {fs : Fields Json} {key : String} {decode : Json → Option β}
  {encode : α → Json} {a : α} {b default : β}

theorem required?_of_get? (hget : fs.get? key = some (encode a))
    (hdecode : decode (encode a) = some b) : required? fs key decode = some b := by
  rw [required?, hget]
  exact hdecode

/-- A member that is left out takes the default. -/
theorem defaulted?_of_get? {choice : Option α} (value : α → β)
    (hget : fs.get? key = choice.map encode) (hdecode : ∀ a, decode (encode a) = some (value a)) :
    defaulted? fs key decode default = some ((choice.map value).getD default) := by
  rw [defaulted?, hget]
  cases choice with
  | none => rfl
  | some a => exact hdecode a

/-- A member that is left out or null is nothing. -/
theorem optional?_of_get? {choice : Option (Option α)} (value : α → β)
    (hget : fs.get? key = choice.map (ofOption encode))
    (hdecode : ∀ a, decode (encode a) = some (value a)) (hnull : decode .null = none) :
    optional? fs key decode = some (choice.join.map value) := by
  rw [optional?, hget]
  cases choice with
  | none => rfl
  | some o =>
    cases o with
    | none => rfl
    | some a =>
      have hread := hdecode a
      rw [Option.map_some, ofOption]
      generalize encode a = j at hread ⊢
      cases j with
      | null => cases hnull.symm.trans hread
      | _ => exact congrArg (Option.map some) hread

theorem optional?_ofOption (encode : α → Json) (o : Option α)
    (hget : fs.get? key = some (ofOption encode o)) {decode : Json → Option α}
    (hdecode : ∀ a, decode (encode a) = some a) (hnull : decode .null = none) :
    optional? fs key decode = some o := by
  have hchosen : fs.get? key = (some o).map (ofOption encode) := hget
  rw [optional?_of_get? id hchosen hdecode hnull, Option.join_some, Option.map_id, id]

theorem bool?_bool (b : Bool) : bool? (.bool b) = some b := rfl

theorem string?_str (s : String) : string? (.str s) = some s := rfl

end Json

theorem MatchMode.word?_word (m : MatchMode) : word? MatchMode.words (.str m.word) = some m := by
  cases m <;> rfl

theorem TargetClause.word?_word (t : TargetClause) :
    word? TargetClause.words (.str t.word) = some t := by
  cases t <;> rfl

theorem NullOrdering.word?_word (n : NullOrdering) :
    word? NullOrdering.words (.str n.word) = some n := by
  cases n <;> rfl

theorem ColumnKind.ofJson?_toJson (kind : ColumnKind) : ofJson? kind.toJson = some kind := by
  cases kind with
  | dateRange op => cases op <;> rfl
  | nested path => rfl
  | _ => rfl

theorem SearchOptions.ofJson?_toJson (o : SearchOptions) : ofJson? o.toJson = some o := by
  obtain ⟨fuzzy, mode, target⟩ := o
  cases fuzzy <;> cases mode <;> cases target <;> rfl

theorem AssociationMode.ofJson?_toJson (m : AssociationMode) : ofJson? m.toJson = some m := by
  cases m with
  | idList => rfl
  | textSearch field => cases field <;> rfl

theorem AssociationOptions.ofJson?_toJson (o : AssociationOptions) : ofJson? o.toJson = some o := by
  obtain ⟨name, mode⟩ := o
  have hmode : defaulted? [("mode", mode.toJson), ("name", ofOption .str name)] "mode"
      AssociationMode.ofJson? .idList = some mode := mode.ofJson?_toJson
  have hname : optional? [("mode", mode.toJson), ("name", ofOption .str name)] "name" string? =
      some name := by cases name <;> rfl
  simp only [ofJson?, toJson, members?, Option.bind_eq_bind, Option.bind_some, hmode, hname]
  rfl

/-- A definition is read member by member. -/
theorem ColumnData.ofJson?_obj {fs : Fields Json} {c : ColumnData}
    (hname : required? fs "name" string? = some c.name)
    (hfield : required? fs "backend_field" string? = some c.backendField)
    (hkind : required? fs "column_type" ColumnKind.ofJson? = some c.kind)
    (hsearch : defaulted? fs "search" SearchOptions.ofJson? {} = some c.search)
    (hnulls : defaulted? fs "null_ordering" (word? NullOrdering.words) .backendDefault =
      some c.nullOrdering)
    (hsortable : defaulted? fs "sortable" bool? true = some c.sortable)
    (hsort : optional? fs "sort_field" string? = some c.sortOverride)
    (htype : optional? fs "type_field" string? = some c.typeOverride)
    (hassociation : optional? fs "association" AssociationOptions.ofJson? = some c.association) :
    ofJson? (.obj fs) = some c := by
  simp only [ofJson?, members?, Option.bind_eq_bind, Option.bind_some, hname, hfield, hkind,
    hsearch, hnulls, hsortable, hsort, htype, hassociation]
  rfl

/-- A definition that is written in full is read as it was. -/
theorem ColumnData.ofJson?_toJson (c : ColumnData) : ofJson? c.toJson = some c := by
  refine ofJson?_obj rfl rfl c.kind.ofJson?_toJson c.search.ofJson?_toJson
    c.nullOrdering.word?_word rfl ?_ ?_ ?_
  · exact optional?_ofOption .str c.sortOverride rfl string?_str rfl
  · exact optional?_ofOption .str c.typeOverride rfl string?_str rfl
  · exact optional?_ofOption _ c.association rfl AssociationOptions.ofJson?_toJson rfl

theorem ColumnKind.wordy_toJson (kind : ColumnKind) : Wordy kind.toJson := by
  cases kind with
  | dateRange op =>
    exact .obj (Fields.ascending_of_keys ["operator", "type"] (by decide) rfl) (by simp)
  | nested path => exact .obj (Fields.ascending_of_keys ["path", "type"] (by decide) rfl) (by simp)
  | _ => exact .obj (Fields.ascending_of_keys ["type"] (by decide) rfl) (by simp)

theorem SearchOptions.wordy_toJson (o : SearchOptions) : Wordy o.toJson :=
  .obj (Fields.ascending_of_keys ["fuzzy", "match_mode", "target_clause"] (by decide) rfl) (by simp)

theorem AssociationMode.wordy_toJson (m : AssociationMode) : Wordy m.toJson := by
  cases m with
  | idList => exact .obj (Fields.ascending_of_keys ["mode"] (by decide) rfl) (by simp)
  | textSearch field =>
    exact .obj (Fields.ascending_of_keys ["field", "mode"] (by decide) rfl)
      (by simp [Wordy.ofOption Wordy.str field])

theorem AssociationOptions.wordy_toJson (o : AssociationOptions) : Wordy o.toJson :=
  .obj (Fields.ascending_of_keys ["mode", "name"] (by decide) rfl)
    (by simp [o.mode.wordy_toJson, Wordy.ofOption Wordy.str o.name])

namespace ColumnData

theorem wordy_toJson (c : ColumnData) : Wordy c.toJson := by
  refine .obj (Fields.ascending_of_keys ["association", "backend_field", "column_type", "name",
    "null_ordering", "search", "sort_field", "sortable", "type_field"] (by decide) rfl) ?_
  simp [c.kind.wordy_toJson, c.search.wordy_toJson,
    Wordy.ofOption AssociationOptions.wordy_toJson c.association,
    Wordy.ofOption Wordy.str c.sortOverride, Wordy.ofOption Wordy.str c.typeOverride]

/-- The definition that a text spells. -/
def parse? (text : String) : Option ColumnData := (Json.parse? text).bind ofJson?

theorem parse?_compact (c : ColumnData) : parse? (compact c.toJson) = some c := by
  rw [parse?, Json.parse?_compact c.wordy_toJson, Option.bind_some, ofJson?_toJson]

end ColumnData

end TableView
