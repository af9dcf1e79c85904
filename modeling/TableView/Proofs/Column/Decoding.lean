import Mathlib.Data.List.Nodup
import TableView.Proofs.Column.Codec

/-! A column that is written with some of its settings and read back is the one built with these
settings: what is left out takes the same default. -/
namespace TableView
open Json

namespace Json
variable {key : String}

/-- The members that are there, in the order of their keys. -/
def present (ms : List (String × Option Json)) : Fields Json :=
  .ofList (ms.filterMap fun m => m.2.map fun j => (m.1, j))

/-- Of members with different keys each is found, or found missing, under its own. -/
theorem get?_present {ms : List (String × Option Json)} {member : Option Json}
    (hdistinct : (ms.map Prod.fst).Nodup) (hm : (key, member) ∈ ms) :
    (present ms).get? key = member := by
  have hunique : ∀ j, (key, some j) ∈ ms → member = some j := fun j hj =>
    congrArg Prod.snd (List.inj_on_of_nodup_map hdistinct hm hj rfl)
  have hpresent : ∀ k j, (k, j) ∈ ms.filterMap (fun m => m.2.map fun j => (m.1, j)) ↔
      (k, some j) ∈ ms := by
    intro k j
    simp [List.mem_filterMap, Option.map_eq_some_iff]
  cases member with
  | some j =>
    refine Fields.get?_ofList_of_mem ((hpresent key j).mpr hm) fun w hw => ?_
    exact (Option.some.inj (hunique w ((hpresent key w).mp hw))).symm
  | none =>
    rw [present, Fields.get?_ofList, Fields.get?_eq_none_iff]
    rintro ⟨k, j⟩ hj rfl
    cases hunique j ((hpresent k j).mp (List.mem_reverse.mp hj))

theorem wordy_of_map {α : Type} {encode : α → Json} (h : ∀ a, Wordy (encode a))
    (choice : Option α) : ∀ j, choice.map encode = some j → Wordy j := by
  intro j hj
  obtain ⟨a, -, rfl⟩ := Option.map_eq_some_iff.mp hj
  exact h a

theorem wordy_of_some {i : Json} (h : Wordy i) : ∀ j, some i = some j → Wordy j := by
  rintro j ⟨⟩
  exact h

theorem wordy_present {ms : List (String × Option Json)}
    (h : ∀ m ∈ ms, ∀ j, m.2 = some j → Wordy j) : Wordy (.obj (present ms)) := by
  refine .obj (Fields.ascending_ofList _) fun e he => ?_
  obtain ⟨m, hm, hpresent⟩ := List.mem_filterMap.mp (Fields.mem_of_mem_ofList he)
  obtain ⟨j, hj, rfl⟩ := Option.map_eq_some_iff.mp hpresent
  exact h m hm j hj

end Json

/-- Of the search settings those that are chosen. -/
structure SearchChoice where
  fuzzy : Option Bool := none
  matchMode : Option MatchMode := none
  targetClause : Option TargetClause := none

namespace SearchChoice
variable (s : SearchChoice)

def options : SearchOptions where
  fuzzy := s.fuzzy.getD ({} : SearchOptions).fuzzy
  matchMode := s.matchMode.getD ({} : SearchOptions).matchMode
  targetClause := s.targetClause.getD ({} : SearchOptions).targetClause

def members : List (String × Option Json) :=
  [("fuzzy", s.fuzzy.map .bool), ("match_mode", s.matchMode.map (.str ·.word)),
    ("target_clause", s.targetClause.map (.str ·.word))]

def toJson : Json := .obj (present s.members)

theorem get?_members {key : String} {member : Option Json} (h : (key, member) ∈ s.members) :
    (present s.members).get? key = member := get?_present (by simp [members]) h

theorem wordy_toJson : Wordy s.toJson := by
  refine wordy_present ?_
  simp only [members, List.forall_mem_cons]
  exact ⟨wordy_of_map Wordy.bool _, wordy_of_map (fun _ => .str _) _,
    wordy_of_map (fun _ => .str _) _, nofun⟩

theorem ofJson?_toJson : SearchOptions.ofJson? s.toJson = some s.options := by
  have hfuzzy : (present s.members).get? "fuzzy" = s.fuzzy.map .bool :=
    s.get?_members (by simp [members])
  have hmode : (present s.members).get? "match_mode" = s.matchMode.map (.str ·.word) :=
    s.get?_members (by simp [members])
  have htarget : (present s.members).get? "target_clause" = s.targetClause.map (.str ·.word) :=
    s.get?_members (by simp [members])
  simp only [SearchOptions.ofJson?, toJson, members?, Option.bind_eq_bind, Option.bind_some,
    defaulted?_of_get? id hfuzzy bool?_bool, defaulted?_of_get? id hmode MatchMode.word?_word,
    defaulted?_of_get? id htarget TargetClause.word?_word, Option.map_id, id]
  rfl

end SearchChoice

/-- How the terms of a relationship are read; the field to search may be left out. -/
inductive ModeChoice
  | idList
  | textSearch (field : Option (Option String))

namespace ModeChoice

def mode : ModeChoice → AssociationMode
  | idList => .idList
  | textSearch field => .textSearch field.join

def word : ModeChoice → String
  | idList => "id_list"
  | textSearch _ => "text_search"

def members (m : ModeChoice) : List (String × Option Json) :=
  [("mode", some (.str m.word)),
    ("field", match m with
      | idList => none
      | textSearch field => field.map (ofOption .str))]

def toJson (m : ModeChoice) : Json := .obj (present m.members)

/-- The word is read first, and what it stands with from the other members. -/
theorem tagged?_toJson (m : ModeChoice) :
    tagged? "mode" m.toJson = some (m.word, .obj ((present m.members).erase "mode")) := by
  have hmode : (present m.members).get? "mode" = some (.str m.word) :=
    get?_present (by simp [members]) (by simp [members])
  simp only [tagged?, toJson, hmode, Option.bind_eq_bind, Option.bind_some, string?_str]
  rfl

theorem ofJson?_toJson (m : ModeChoice) : AssociationMode.ofJson? m.toJson = some m.mode := by
  rw [AssociationMode.ofJson?, tagged?_toJson]
  cases m with
  | idList => rfl
  | textSearch field =>
    have hfield : ((present (textSearch field).members).erase "mode").get? "field" =
        field.map (ofOption .str) := by
      rw [Fields.get?_erase, if_neg (by decide)]
      exact get?_present (by simp [members]) (by simp [members])
    show (optional? _ "field" string?).bind _ = _
    rw [optional?_of_get? id hfield string?_str rfl, Option.map_id]
    rfl

theorem wordy_toJson (m : ModeChoice) : Wordy m.toJson := by
  refine wordy_present ?_
  simp only [members, List.forall_mem_cons]
  refine ⟨wordy_of_some (.str _), ?_, nofun⟩
  cases m with
  | idList => nofun
  | textSearch field => exact wordy_of_map (Wordy.ofOption Wordy.str) field

end ModeChoice

/-- Of the settings of a relationship those that are chosen. -/
structure AssociationChoice where
  name : Option (Option String) := none
  mode : Option ModeChoice := none

namespace AssociationChoice
variable (a : AssociationChoice)

def options : AssociationOptions where
  name := a.name.join
  mode := (a.mode.map (·.mode)).getD ({} : AssociationOptions).mode

def members : List (String × Option Json) :=
  [("name", a.name.map (ofOption .str)), ("mode", a.mode.map (·.toJson))]

def toJson : Json := .obj (present a.members)

theorem ofJson?_toJson : AssociationOptions.ofJson? a.toJson = some a.options := by
  have hname : (present a.members).get? "name" = a.name.map (ofOption .str) :=
    get?_present (by simp [members]) (by simp [members])
  have hmode : (present a.members).get? "mode" = a.mode.map (·.toJson) :=
    get?_present (by simp [members]) (by simp [members])
  simp only [AssociationOptions.ofJson?, toJson, members?, Option.bind_eq_bind, Option.bind_some,
    optional?_of_get? id hname string?_str rfl,
    defaulted?_of_get? (·.mode) hmode ModeChoice.ofJson?_toJson, Option.map_id, id]
  rfl

theorem wordy_toJson : Wordy a.toJson := by
  refine wordy_present ?_
  simp only [members, List.forall_mem_cons]
  exact ⟨wordy_of_map (Wordy.ofOption Wordy.str) _, wordy_of_map ModeChoice.wordy_toJson _, nofun⟩

end AssociationChoice

/-- A column's name, field and kind, and of its other settings those that are chosen. -/
structure ColumnChoice where
  name : String
  backendField : String
  kind : ColumnKind
  search : Option SearchChoice := none
  nullOrdering : Option NullOrdering := none
  sortable : Option Bool := none
  sortField : Option (Option String) := none
  typeField : Option (Option String) := none
  association : Option (Option AssociationChoice) := none

namespace ColumnChoice
variable (c : ColumnChoice)

def options : ColumnOptions where
  backendField := some c.backendField
  search := c.search.map (·.options)
  nullOrdering := c.nullOrdering
  sortable := c.sortable
  sortField := c.sortField.join
  typeField := c.typeField.join
  association := c.association.join.map (·.options)

/-- The column with the settings chosen and no others. -/
def built : Column := c.options.define c.name c.kind

def members : List (String × Option Json) :=
  [("name", some (.str c.name)), ("backend_field", some (.str c.backendField)),
    ("column_type", some c.kind.toJson), ("search", c.search.map (·.toJson)),
    ("null_ordering", c.nullOrdering.map (.str ·.word)), ("sortable", c.sortable.map .bool),
    ("sort_field", c.sortField.map (ofOption .str)),
    ("type_field", c.typeField.map (ofOption .str)),
    ("association", c.association.map (ofOption (·.toJson)))]

def toJson : Json := .obj (present c.members)

theorem get?_members {key : String} {member : Option Json} (h : (key, member) ∈ c.members) :
    (present c.members).get? key = member := get?_present (by simp [members]) h

/-- All settings that are left out take the defaults of a built column, but for one: whether the
column is sortable does not depend on its kind. -/
theorem ofJson?_toJson : ColumnData.ofJson? c.toJson =
    some { c.built.toColumnData with sortable := c.sortable.getD true } := by
  have hget := @c.get?_members
  have hname : (present c.members).get? "name" = some (.str c.name) := hget (by simp [members])
  have hfield : (present c.members).get? "backend_field" = some (.str c.backendField) :=
    hget (by simp [members])
  have hkind : (present c.members).get? "column_type" = some c.kind.toJson :=
    hget (by simp [members])
  have hsearch : (present c.members).get? "search" = c.search.map (·.toJson) :=
    hget (by simp [members])
  have hnulls : (present c.members).get? "null_ordering" = c.nullOrdering.map (.str ·.word) :=
    hget (by simp [members])
  have hsortable : (present c.members).get? "sortable" = c.sortable.map .bool :=
    hget (by simp [members])
  have hsort : (present c.members).get? "sort_field" = c.sortField.map (ofOption .str) :=
    hget (by simp [members])
  have htype : (present c.members).get? "type_field" = c.typeField.map (ofOption .str) :=
    hget (by simp [members])
  have hassociation : (present c.members).get? "association" =
      c.association.map (ofOption (·.toJson)) := hget (by simp [members])
  apply ColumnData.ofJson?_obj (required?_of_get? hname (string?_str _))
    (required?_of_get? hfield (string?_str _))
    (required?_of_get? hkind (ColumnKind.ofJson?_toJson _))
  · exact defaulted?_of_get? (·.options) hsearch SearchChoice.ofJson?_toJson
  · rw [defaulted?_of_get? id hnulls NullOrdering.word?_word, Option.map_id]
    rfl
  · rw [defaulted?_of_get? id hsortable bool?_bool, Option.map_id]
    rfl
  · rw [optional?_of_get? id hsort string?_str rfl, Option.map_id]
    rfl
  · rw [optional?_of_get? id htype string?_str rfl, Option.map_id]
    rfl
  · exact optional?_of_get? (·.options) hassociation AssociationChoice.ofJson?_toJson rfl

theorem wordy_toJson : Wordy c.toJson := by
  refine wordy_present ?_
  simp only [members, List.forall_mem_cons]
  exact ⟨wordy_of_some (.str _), wordy_of_some (.str _), wordy_of_some c.kind.wordy_toJson,
    wordy_of_map SearchChoice.wordy_toJson _, wordy_of_map (fun _ => .str _) _,
    wordy_of_map Wordy.bool _, wordy_of_map (Wordy.ofOption Wordy.str) _,
    wordy_of_map (Wordy.ofOption Wordy.str) _,
    wordy_of_map (Wordy.ofOption AssociationChoice.wordy_toJson) _, nofun⟩

end ColumnChoice

/-- The column of a definition that was read, which has no strategies. -/
def ColumnData.column (d : ColumnData) : Column := { toColumnData := d }

theorem ColumnData.column_eq_iff {d : ColumnData} {c : Column} (hsearch : c.searchStrategy = none)
    (horder : c.orderStrategy = none) : d.column = c ↔ d = c.toColumnData := by
  obtain ⟨data, search, order⟩ := c
  subst hsearch horder
  simp [column]

/-- Reading finds the column that building makes, but for a search-only column without a word on
whether it is sortable: this one is read as sortable. -/
theorem ColumnChoice.reads_built_iff (c : ColumnChoice) :
    (ColumnData.ofJson? c.toJson).map (·.column) = some c.built ↔
      ¬ (c.kind = .searchOnly ∧ c.sortable = none) := by
  rw [c.ofJson?_toJson, Option.map_some, Option.some.injEq, ColumnData.column_eq_iff rfl rfl]
  have hother : ∀ d : ColumnData, ∀ b, { d with sortable := b } = d ↔ b = d.sortable := by
    rintro ⟨⟩ b
    simp
  rw [hother]
  show c.sortable.getD true = c.sortable.getD (c.kind != .searchOnly) ↔ _
  cases c.sortable with
  | some b => simp
  | none => simp [bne]

/-- A column that is built without strategies, written and read is the same column. A column that is
written with its name, field and kind and any of the other settings is read, however these are
chosen, as the one built with them, but for whether it is sortable where that is not written: then
it is read as sortable, also a search-only column, which is built as not sortable. -/
theorem read_column_eq_built (c : ColumnChoice) :
    (∀ o : ColumnOptions, o.searchStrategy = none → o.orderStrategy = none →
      (ColumnData.parse? (compact (o.define c.name c.kind).toJson)).map (·.column) =
        some (o.define c.name c.kind)) ∧
    Json.parse? (compact c.toJson) = some c.toJson ∧
    (∀ text, Json.parse? text = some c.toJson →
      ColumnData.parse? text = some { c.built.toColumnData with sortable := c.sortable.getD true } ∧
      ((ColumnData.parse? text).map (·.column) = some c.built ↔
        ¬ (c.kind = .searchOnly ∧ c.sortable = none))) ∧
    c.built.sortable = c.sortable.getD (c.kind != .searchOnly) := by
  refine ⟨?_, Json.parse?_compact c.wordy_toJson, ?_, rfl⟩
  · intro o hsearch horder
    rw [ColumnData.parse?_compact, Option.map_some, Option.some.injEq]
    exact (ColumnData.column_eq_iff hsearch horder).mpr rfl
  · intro text htext
    rw [ColumnData.parse?, htext, Option.bind_some]
    exact ⟨c.ofJson?_toJson, c.reads_built_iff⟩

/-- A column to be found by its words but not shown. -/
def ColumnChoice.keywords : ColumnChoice where
  name := "keywords"
  backendField := "keywords"
  kind := .searchOnly

/-- What the builder keeps from being sorted, reading does not, unless it is said. -/
theorem read_column_eq_built_keywords :
    (ColumnData.parse? (compact (({} : ColumnOptions).define "keywords" .searchOnly).toJson)).map
      (·.column) = some (({} : ColumnOptions).define "keywords" .searchOnly) ∧
    ColumnChoice.keywords.built.sortable = false ∧
    (∃ d, ColumnData.parse? (compact ColumnChoice.keywords.toJson) = some d ∧ d.sortable = true) ∧
    (ColumnData.parse? (compact { ColumnChoice.keywords with sortable := some false }.toJson)).map
      (·.column) = some ColumnChoice.keywords.built := by
  obtain ⟨hbuilt, hwritten, hread, hsortable⟩ := read_column_eq_built ColumnChoice.keywords
  obtain ⟨-, hsaid, hreadSaid, -⟩ :=
    read_column_eq_built { ColumnChoice.keywords with sortable := some false }
  refine ⟨hbuilt {} rfl rfl, hsortable, ?_, ?_⟩
  · exact ⟨_, (hread _ hwritten).1, rfl⟩
  · exact (hreadSaid _ hsaid).2.mpr (by simp)

end TableView
