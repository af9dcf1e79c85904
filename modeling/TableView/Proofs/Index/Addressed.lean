import TableView.Proofs.Index.Reading

/-! The fields that a query is about. A nested column's condition is about one field, which lies
under the path of the column. -/
namespace TableView.Index

mutual

/-- The fields that a query, or each of some queries, names: those of the queries that a `bool`
or `nested` query holds, the field of an `exists` query, and of any other the keys of what it
asks for. -/
def addressed : Json → List String
  | .obj [(kind, .obj parts)] =>
    if kind = "bool" ∨ kind = "nested" then addressedParts parts
    else if kind = "exists" then ((Fields.get? parts "field").bind Json.string?).toList
    else parts.map Prod.fst
  | .arr queries => addressedEach queries
  | _ => []

def addressedParts : List (String × Json) → List String
  | [] => []
  | (_, queries) :: rest => addressed queries ++ addressedParts rest

def addressedEach : List Json → List String
  | [] => []
  | query :: rest => addressed query ++ addressedEach rest

end

theorem addressedEach_eq_flatMap (queries : List Json) :
    addressedEach queries = queries.flatMap addressed := by
  induction queries with
  | nil => rfl
  | cons query rest ih => rw [addressedEach, ih, List.flatMap_cons]

namespace Clause
variable {c : ColumnData} {path field : String}

@[simp] theorem addressed_term (field : String) (value : Json) :
    addressed (term field value).toJson = [field] := by
  simp [toJson, onField, single, addressed]

@[simp] theorem addressed_wildcard (field pattern : String) :
    addressed (wildcard field pattern).toJson = [field] := by
  simp [toJson, onField, single, addressed]

@[simp] theorem addressed_blank (field : String) :
    addressed (blank field).toJson = [field, field] := by
  simp [toJson, onField, single, addressed, addressedParts, addressedEach, Json.string?, Json.int]

@[simp] theorem addressed_all (clauses : List Clause) :
    addressed (all clauses).toJson = clauses.flatMap fun c => addressed c.toJson := by
  simp [toJson, onField, single, addressed, addressedParts, addressedEach_eq_flatMap,
    listToJson_eq_map, List.flatMap_map]

theorem addressed_allOf (clauses : List Clause) :
    addressed (allOf clauses).toJson = clauses.flatMap fun c => addressed c.toJson := by
  unfold allOf
  split
  case h_1 c => simp
  case h_2 => exact addressed_all clauses

theorem addressed_nestedJson (path : String) (clauses : List Clause) :
    addressed (Body.nestedJson path clauses) = clauses.flatMap fun c => addressed c.toJson := by
  simp [Body.nestedJson, single, addressed, addressedParts]

/-- Whatever a text is matched with, the condition is on the one field. -/
theorem eq_of_mem_addressed_ofText {kind : ColumnKind} {field name : String} {m : TextMatch}
    (hname : name ∈ addressed (ofText kind field m).clause.toJson) : name = field := by
  cases m with
  | blank => simpa [ofText, Placed.clause] using hname
  | equals value =>
    by_cases hkind : kind = .enumeration <;>
      simpa [ofText, Placed.clause, hkind, ofPattern] using hname
  | allOf patterns =>
    rw [ofText, Placed.clause, addressed_allOf] at hname
    simp only [List.flatMap_map, ofPattern, addressed_wildcard, List.mem_flatMap,
      List.mem_singleton] at hname
    obtain ⟨-, -, hname⟩ := hname
    exact hname

end Clause

/-- The field of a nested column lies under its path, whether or not it was written that way. -/
theorem clauseField_under_path {c : ColumnData} {path : String} (hkind : c.kind = .nested path) :
    ∃ rest, c.clauseField = path ++ "." ++ rest := by
  simp only [ColumnData.clauseField, hkind]
  split
  case isTrue h =>
    obtain ⟨rest, hrest⟩ := List.isPrefixOf_iff_prefix.mp h
    refine ⟨String.ofList rest, String.ext ?_⟩
    rw [String.toList_append, String.toList_ofList, hrest]
  case isFalse => exact ⟨c.backendField, rfl⟩

end TableView.Index
