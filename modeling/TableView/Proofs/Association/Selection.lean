import TableView.Proofs.Association.Ids
import TableView.Proofs.Association.OwnerQuery
import TableView.Proofs.Query.Writing
import TableView.Proofs.Sql.Comparisons
import TableView.Proofs.Term.Agreement

/-! What resolving a relationship term comes to: whether a query is made, what it is bound to, which
related rows it selects and which owners are kept. -/
namespace TableView
open Sql
open Text (CaseFolding)

namespace Sql
variable {F : CaseFolding} {row : Row} {caps : Capabilities} {p : Predicate} {ps : List Predicate}

theorem truth_foldl_or :
    ((ps.foldl Predicate.or p).condition caps).truth F row = .yes ↔
      ∃ q ∈ p :: ps, (q.condition caps).truth F row = .yes := by
  induction ps generalizing p with
  | nil => simp
  | cons q ps ih => simp [ih, Predicate.condition, Condition.truth, or_assoc]

theorem truth_isIn {field : String} {ids : List Int} :
    ((Predicate.isIn field ids).condition caps).truth F row = .yes ↔
      ∃ n ∈ ids, row field = .integer n := by
  simp only [Predicate.condition, Condition.truth, Expr.value]
  induction ids with
  | nil => simp
  | cons n ids ih => simp [ih]

theorem Predicate.Elementary.foldl_or (hp : p.Elementary) (hps : ∀ q ∈ ps, q.Elementary) :
    (ps.foldl Predicate.or p).Elementary := by
  induction ps generalizing p with
  | nil => exact hp
  | cons q ps ih =>
    have hq := hps q List.mem_cons_self
    exact ih (p := .or p q) ⟨hp, hq⟩ fun k hk => hps k (List.mem_cons_of_mem _ hk)

end Sql

namespace Association
variable {a : Association} {mode : AssociationMode} {columns : List (String × ColumnKind)}
  {raw : String} {p : Predicate} {s : AssociationSource} {h : List Call}

/-- There is nothing to look for: no id, no text, or no field that could hold it. -/
def Unrestricted (columns : List (String × ColumnKind)) (raw : String) : AssociationMode → Prop
  | .idList => ∀ n, ¬Listed raw n
  | .textSearch field =>
    (∀ c ∈ raw.toList, Text.isBlank c) ∨ field = none ∧ ∀ c ∈ columns, c.2.isTextual = false

/-- The values of a term: the listed ids in ascending order, or the pattern once for each field. -/
def Asks (columns : List (String × ColumnKind)) (raw : String) (values : List Param) :
    AssociationMode → Prop
  | .idList => ∃ ids : List Int, values = ids.map .integer ∧ ids.Pairwise (· < ·) ∧
      ∀ n, n ∈ ids ↔ Listed raw n
  | .textSearch field => values = (searched columns field).map fun _ =>
      .text ("%" ++ Predicate.escapeLike (Text.lower (Text.trim raw)) ++ "%")

/-- A related row whose id is listed, or that holds the text in one of the fields. -/
def Wanted (a : Association) (columns : List (String × ColumnKind)) (raw : String) (F : CaseFolding)
    (row : Row) : AssociationMode → Prop
  | .idList => ∃ n, Listed raw n ∧ row a.relatedId = .integer n
  | .textSearch field => ∃ f ∈ searched columns field, ∃ text,
      row (a.relatedTable ++ "." ++ f) = .text text ∧
      (Text.lower (Text.trim raw)).toList <:+: (F.text text).toList

/-- The type that an owner of related rows must have: only has-many rows carry one. -/
def ownerType (a : Association) : Option TypeLink :=
  if a.kind = .hasMany then a.polymorphic else none

def typeField (a : Association) (link : TypeLink) : String :=
  a.relatedTable ++ "." ++ link.typeColumn

/-- The fields that the condition on related rows compares. -/
def compared (a : Association) (columns : List (String × ColumnKind)) (mode : AssociationMode) :
    List String :=
  (match mode with
    | .idList => [a.relatedId]
    | .textSearch field => (searched columns field).map (a.relatedTable ++ "." ++ ·)) ++
    (a.ownerType.map a.typeField).toList

/-- The query for the owners of the wanted rows: its values in order, and what the text behind its
`WHERE` says of a row. -/
structure Finds (a : Association) (columns : List (String × ColumnKind)) (raw : String)
    (mode : AssociationMode) (f : Fragment) : Prop where
  params : ∃ values, Asks columns raw values mode ∧
    f.params = values ++ (a.ownerType.map fun link => .text link.typeName).toList
  selects : ∃ head condition, a.selectOwners = head ++ " WHERE" ∧
    f.sql = a.selectOwners ++ " " ++ condition ∧
    ((∀ name ∈ a.compared columns mode, IsName name) → ∀ F row,
      (comparisons F f.params row).text (numbered 0 condition) = .yes ↔
        a.Wanted columns raw F row mode ∧
        ∀ link ∈ a.ownerType, row (a.typeField link) = .text link.typeName)

theorem searchedFields_eq (hcolumns : s.columns h a.relatedTable = .ok columns)
    (field : Option String) : (searchedFields s a field h).1 = .ok (searched columns field) := by
  cases field with
  | some field => rfl
  | none =>
    rw [searchedFields_none, hcolumns]
    rfl

theorem searched_eq_nil {field : Option String} : searched columns field = [] ↔
    field = none ∧ ∀ c ∈ columns, c.2.isTextual = false := by
  cases field with
  | some field => simp [searched]
  | none => simp [searched]

/-- A term restricts nothing when there is nothing to look for, and else it has a condition. -/
theorem related?_eq (mode : AssociationMode) (raw : String)
    (hcolumns : s.columns h a.relatedTable = .ok columns) :
    (Unrestricted columns raw mode ∧ (a.related? s mode raw h).1 = .ok none) ∨
    (¬Unrestricted columns raw mode ∧ ∃ p, (a.related? s mode raw h).1 = .ok (some p)) := by
  cases mode with
  | idList =>
    have hnone : parseIds raw = [] ↔ ∀ n, ¬Listed raw n := by
      simp only [List.eq_nil_iff_forall_not_mem, mem_parseIds]
    rw [Unrestricted, ← hnone]
    obtain ⟨hempty, hids⟩ | ⟨hsome, hids⟩ := related?_ids s a raw h
    · exact Or.inl ⟨hempty, by rw [hids]⟩
    · exact Or.inr ⟨hsome, _, by rw [hids]⟩
  | textSearch field =>
    rw [Unrestricted, ← Text.lower_trim_eq_empty, ← searched_eq_nil]
    by_cases hneedle : Text.lower (Text.trim raw) = ""
    · exact Or.inl ⟨Or.inl hneedle, by rw [related?_blank hneedle]⟩
    · rw [related?_text hneedle, searchedFields_eq hcolumns]
      cases hfields : searched columns field with
      | nil => exact Or.inl ⟨Or.inr rfl, rfl⟩
      | cons f fields => exact Or.inr ⟨by simp [hneedle], _, rfl⟩

theorem needlePattern_eq (needle : String) :
    needlePattern needle = Predicate.pattern (.containing needle) := by
  simp [needlePattern, Predicate.pattern, Pattern.render, Pattern.containing, String.join_cons,
    String.append_assoc]

/-- A field whose text, once case is folded, contains the needle of the term. -/
theorem truth_contains {F : CaseFolding} {row : Row} {field : String} :
    ((a.contains (Text.lower (Text.trim raw)) field).condition {}).truth F row = .yes ↔
      ∃ text, row (a.relatedTable ++ "." ++ field) = .text text ∧
        (Text.lower (Text.trim raw)).toList <:+: (F.text text).toList := by
  have hlower := Term.isLower_containing (Term.isLower_lower (Text.trim raw))
  rw [contains, needlePattern_eq, like_eq_yes hlower]
  cases row (a.relatedTable ++ "." ++ field) <;>
    simp [Param.matches, Param.folded, Param.accepts, Pattern.accept_containing]

/-- The search in several fields is bound to one pattern for each, and any of them will do. -/
theorem anyOf?_condition {needle : String} {fields : List String}
    (hp : Predicate.anyOf? (fields.map (a.contains needle)) = some p) :
    p.Elementary ∧ (p.fragment {}).params = fields.map (fun _ => .text (needlePattern needle)) ∧
      ∀ F row, (p.condition {}).truth F row = .yes ↔
        ∃ f ∈ fields, ((a.contains needle f).condition {}).truth F row = .yes := by
  obtain _ | ⟨field, others⟩ := fields
  · cases hp
  obtain rfl := Option.some.inj hp
  refine ⟨?_, ?_, fun F row => ?_⟩
  · refine Predicate.Elementary.foldl_or trivial fun q hq => ?_
    obtain ⟨f, -, rfl⟩ := List.mem_map.mp hq
    trivial
  · rw [Predicate.fragment_foldl_or]
    have hparams : (((others.map (a.contains needle)).map (Predicate.fragment {})).foldl
        (Fragment.connect "OR") ((a.contains needle field).fragment {})).params = _ :=
      Fragment.foldl_connect_params
    refine hparams.trans ?_
    rw [List.flatMap_map, List.flatMap_map, List.map_cons, List.map_eq_flatMap]
    rfl
  · rw [truth_foldl_or, ← List.map_cons]
    simp only [List.mem_map, exists_exists_and_eq_and]

/-- What the condition on related rows is bound to, which fields it compares and what it says. -/
theorem related?_condition (hcolumns : s.columns h a.relatedTable = .ok columns)
    (hp : (a.related? s mode raw h).1 = .ok (some p)) :
    p.Elementary ∧ Asks columns raw (p.fragment {}).params mode ∧
      (∀ f ∈ p.fields, f ∈ a.compared columns mode) ∧
      ∀ F row, (p.condition {}).truth F row = .yes ↔ a.Wanted columns raw F row mode := by
  obtain ⟨rfl, rfl⟩ | ⟨field, fields, rfl, hfields, hany⟩ := related?_cases hp
  · refine ⟨trivial, ⟨_, rfl, parseIds_pairwise raw, fun n => mem_parseIds⟩, ?_, fun F row => ?_⟩
    · simp [Predicate.fields, compared]
    · simp [truth_isIn, Wanted, mem_parseIds]
  · obtain rfl : fields = searched columns field := by
      rw [searchedFields_eq hcolumns] at hfields
      exact (Except.ok.inj hfields).symm
    have hcompared : ∀ f ∈ p.fields, f ∈ a.compared columns (.textSearch field) := by
      intro f hf
      obtain ⟨q, hq, hfq⟩ := Predicate.fields_anyOf? hany hf
      obtain ⟨name, hname, rfl⟩ := List.mem_map.mp hq
      obtain rfl : f = a.relatedTable ++ "." ++ name := by
        simpa [contains, Predicate.fields] using hfq
      exact List.mem_append_left _ (List.mem_map_of_mem hname)
    obtain ⟨helementary, hparams, htruth⟩ := anyOf?_condition hany
    refine ⟨helementary, hparams, hcompared, fun F row => ?_⟩
    rw [htruth, Wanted]
    simp only [truth_contains]

theorem typed_eq (a : Association) (p : Predicate) :
    a.typed p = (a.ownerType.map fun link => Predicate.and p (a.typeTest link)).getD p := by
  obtain ⟨link, hkind, hlink, htyped⟩ | ⟨hnone, htyped⟩ := a.typed_cases p
  · simp [htyped, ownerType, hkind, hlink]
  · rw [htyped, ownerType]
    split
    case isTrue hkind =>
      cases hlink : a.polymorphic with
      | none => rfl
      | some link => exact absurd hlink (hnone link hkind)
    case isFalse => rfl

/-- The type test adds its value at the end and its condition to the others. -/
theorem typed_condition (hp : p.Elementary) :
    (a.typed p).Elementary ∧
    ((a.typed p).fragment {}).params =
      (p.fragment {}).params ++ (a.ownerType.map fun link => .text link.typeName).toList ∧
    (a.typed p).fields = p.fields ++ (a.ownerType.map a.typeField).toList ∧
    ∀ F row, ((a.typed p).condition {}).truth F row = .yes ↔
      (p.condition {}).truth F row = .yes ∧
      ∀ link ∈ a.ownerType, row (a.typeField link) = .text link.typeName := by
  rw [typed_eq]
  cases a.ownerType with
  | none => simpa using hp
  | some link =>
    refine ⟨⟨hp, trivial⟩, rfl, rfl, fun F row => ?_⟩
    simp [Predicate.condition, Condition.truth, typeTest, typeField, Predicate.operand, Expr.value]

theorem ownerQuery_finds (hcolumns : s.columns h a.relatedTable = .ok columns)
    (hp : (a.related? s mode raw h).1 = .ok (some p)) :
    a.Finds columns raw mode (a.ownerQuery p) := by
  obtain ⟨helementary, hvalues, hfields, hwanted⟩ := related?_condition hcolumns hp
  obtain ⟨htyped, hparams, hnames, htruth⟩ := typed_condition (a := a) helementary
  obtain ⟨head, hhead⟩ := a.selectOwners_where
  refine ⟨⟨_, hvalues, hparams⟩, head, ((a.typed p).fragment {}).sql, hhead,
    ownerQuery_sql htyped.ne_empty, fun hcompared F row => ?_⟩
  have hall : ∀ name ∈ (a.typed p).fields, IsName name := by
    intro name hname
    rw [hnames] at hname
    rcases List.mem_append.mp hname with hname | hname
    · exact hcompared name (hfields name hname)
    · exact hcompared name (List.mem_append_right _ hname)
  have hread : (comparisons F ((a.typed p).fragment {}).params row).text
      (numbered 0 ((a.typed p).fragment {}).sql) = ((a.typed p).condition {}).truth F row := by
    simpa using Predicate.text_elementary htyped hall [] []
  rw [ownerQuery_params, hread, htruth, hwanted]

end Association

/-- In a store that always answers, a relationship term fails just when its association is unknown.
Else it asks for the related columns if a text is sought in all of them. It is passed over just when
there is nothing to look for, or it makes one query for the owners of the wanted rows and keeps
these, ascending and each once. -/
theorem relationship_term_resolves {s : AssociationSource}
    {columns : List Call → String → List (String × ColumnKind)}
    {pluck : List Call → Fragment → List Int}
    (hcolumns : ∀ h table, s.columns h table = .ok (columns h table))
    (hpluck : ∀ h f, s.pluckIds h f = .ok (pluck h f))
    (table : String) (c : ColumnData) (raw : String) (h : List Call) :
    (Association.resolve s table c raw h =
        (.error (.associationNotFound table c.associationName), h) ↔
      s.association table c.associationName = none) ∧
    ∀ a, s.association table c.associationName = some a →
      let known := columns h a.relatedTable
      let asked := h ++ a.questions raw c.associationMode
      (Association.resolve s table c raw h = (.ok .unfiltered, asked) ↔
        Association.Unrestricted known raw c.associationMode) ∧
      (¬Association.Unrestricted known raw c.associationMode → ∃ f owners,
        Association.resolve s table c raw h =
          (.ok (.owners a.ownerField owners), asked ++ [.pluckIds f]) ∧
        owners.Pairwise (· < ·) ∧ (∀ n, n ∈ owners ↔ n ∈ pluck asked f) ∧
        a.Finds known raw c.associationMode f) := by
  have hresolve := Association.resolve_apply s table c raw h
  cases ha : s.association table c.associationName with
  | none => simp [hresolve, ha]
  | some a =>
    rw [ha] at hresolve
    simp only at hresolve
    have hknown := hcolumns h a.relatedTable
    obtain ⟨hnone, hrelated⟩ | ⟨hsome, p, hrelated⟩ :=
      Association.related?_eq c.associationMode raw hknown
    · rw [hrelated] at hresolve
      rw [hresolve]
      refine ⟨iff_of_false nofun nofun, fun b hb => ?_⟩
      obtain rfl := Option.some.inj hb
      exact ⟨iff_of_true rfl hnone, fun hsome => absurd hnone hsome⟩
    · rw [hrelated] at hresolve
      simp only [hpluck] at hresolve
      rw [hresolve]
      refine ⟨iff_of_false nofun nofun, fun b hb => ?_⟩
      obtain rfl := Option.some.inj hb
      refine ⟨iff_of_false nofun hsome, fun _ => ?_⟩
      exact ⟨a.ownerQuery p, _, rfl, Association.sortIds_pairwise _,
        fun n => Association.mem_sortIds, Association.ownerQuery_finds hknown hrelated⟩

namespace Blog

/-- It knows the remarks on posts and finds the same owners for every query. -/
def remarkSource : AssociationSource where
  association table name := if table = "posts" ∧ name = "comments" then some remarks else none
  columns _ _ := .ok [("body", .text), ("score", .integer), ("title", .string)]
  pluckIds _ _ := .ok [3, 1, 3]

/-- A remark with a title, on what has the given type. -/
def titled (owner : String) : Row := fun field =>
  if field = "comments.title" then .text "On Lean"
  else if field = "comments.owner_type" then .text owner
  else .null

end Blog

/-- A text in the title of a remark finds it when it is one on a post. -/
theorem relationship_term_resolves_remarks :
    ∃ f owners,
      Association.resolve Blog.remarkSource "posts" Blog.discussion.toColumnData " Lean " [] =
        (.ok (.owners "id" owners), [.columns "comments", .pluckIds f]) ∧
      owners.Pairwise (· < ·) ∧ (∀ n, n ∈ owners ↔ n ∈ [3, 1, 3]) ∧
      f.params = [.text "%lean%", .text "%lean%", .text "Post"] ∧
      ∃ condition, f.sql = "SELECT comments.owner_id FROM comments WHERE " ++ condition ∧
        ∀ owner, (comparisons .lowering f.params (Blog.titled owner)).text (numbered 0 condition) =
          .yes ↔ owner = "Post" := by
  let columns := [("body", ColumnKind.text), ("score", .integer), ("title", .string)]
  have hsought : ¬Association.Unrestricted columns " Lean " (.textSearch none) := by
    rintro (hblank | ⟨-, hnone⟩)
    · exact absurd (hblank 'L' (by decide)) (by decide)
    · exact absurd (hnone ("body", .text) (by decide)) (by decide)
  obtain ⟨-, hknown⟩ := relationship_term_resolves (s := Blog.remarkSource) (fun _ _ => rfl)
    (fun _ _ => rfl) "posts" Blog.discussion.toColumnData " Lean " []
  obtain ⟨-, hfinds⟩ := hknown Blog.remarks (by decide)
  obtain ⟨f, owners, hresolve, hascending, hplucked, ⟨values, hvalues, hparams⟩, head, condition,
    hhead, hsql, hreads⟩ := hfinds hsought
  refine ⟨f, owners, hresolve, hascending, hplucked, ?_, condition, hsql, fun owner => ?_⟩
  · rw [hparams, hvalues]
    rfl
  · rw [hreads (by decide)]
    have htype : Blog.titled owner (Blog.remarks.typeField ⟨"owner_type", "Post"⟩) =
        .text owner := rfl
    constructor
    · rintro ⟨-, hlink⟩
      exact Param.text.inj (htype.symm.trans (hlink ⟨"owner_type", "Post"⟩ rfl))
    · rintro rfl
      have hneedle : Text.lower (Text.trim " Lean ") = "lean" := by decide +kernel
      have htitle : CaseFolding.lowering.text "On Lean" = "on lean" := by decide +kernel
      have hcontained : (Text.lower (Text.trim " Lean ")).toList <:+:
          (CaseFolding.lowering.text "On Lean").toList := by
        rw [hneedle, htitle]
        exact ⟨"on ".toList, [], rfl⟩
      refine ⟨⟨"title", by decide, "On Lean", rfl, hcontained⟩, fun link hlink => ?_⟩
      obtain rfl := Option.some.inj hlink
      exact htype

end TableView
