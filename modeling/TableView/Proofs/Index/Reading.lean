import TableView.Proofs.Index.Documents

/-! Reading queries by their boolean structure, whatever the queries say that hold no others. -/
namespace TableView.Index
open Document (combine minimum)

section
variable (leaf : Json → Bool)

mutual

/-- Whether a query holds, given the answers to all queries that are neither `bool` nor
`match_all`. -/
def holds : Json → Bool
  | .obj [(kind, .obj parts)] =>
    if kind = "bool" then combine (minimum parts) (holdingParts parts)
    else kind = "match_all" || leaf (.obj [(kind, .obj parts)])
  | query => leaf query

def holdingParts : List (String × Json) → Fields (List Bool)
  | [] => []
  | (key, .arr queries) :: rest => (key, eachHolds queries) :: holdingParts rest
  | _ :: rest => holdingParts rest

def eachHolds : List Json → List Bool
  | [] => []
  | query :: rest => holds query :: eachHolds rest

end
end

variable {leaf : Json → Bool}

theorem eachHolds_eq_map (queries : List Json) :
    eachHolds leaf queries = queries.map (holds leaf) := by
  induction queries with
  | nil => rfl
  | cons query rest ih => rw [eachHolds, ih, List.map_cons]

theorem listToJson_eq_map (clauses : List Clause) :
    Clause.listToJson clauses = clauses.map Clause.toJson := by
  induction clauses with
  | nil => rfl
  | cons c rest ih => rw [Clause.listToJson, ih, List.map_cons]

theorem holds_leaf {kind : String} (parts : Json) (hbool : kind ≠ "bool")
    (hall : kind ≠ "match_all") :
    holds leaf (Clause.single kind parts) = leaf (Clause.single kind parts) := by
  cases parts <;> simp [holds, Clause.single, hbool, hall]

theorem holds_none : holds leaf Clause.none.toJson = false := by
  calc holds leaf Clause.none.toJson
      = combine 0 [("must_not", [holds leaf (Clause.single "match_all" (.obj []))])] := rfl
    _ = false := by simp [combine, holds, Clause.single]

theorem holds_all (clauses : List Clause) :
    holds leaf (Clause.all clauses).toJson = clauses.all fun c => holds leaf c.toJson := by
  calc holds leaf (Clause.all clauses).toJson
      = combine 0 [("must", eachHolds leaf (Clause.listToJson clauses))] := rfl
    _ = clauses.all fun c => holds leaf c.toJson := by
      simp [Document.combine_must, eachHolds_eq_map, listToJson_eq_map, List.all_map,
        Function.comp_def]

theorem holds_allOf (clauses : List Clause) :
    holds leaf (Clause.allOf clauses).toJson = clauses.all fun c => holds leaf c.toJson := by
  unfold Clause.allOf
  split
  case h_1 c => simp
  case h_2 => exact holds_all clauses

/-- A body selects what satisfies all its clauses, scored or not and nested or not. -/
theorem holds_boolQuery (b : Body) : holds leaf b.boolQuery =
    ((b.filter.all fun c => holds leaf c.toJson) &&
      (b.nested.all fun e => holds leaf (Body.nestedJson e.1 e.2)) &&
      b.query.all fun c => holds leaf c.toJson) := by
  calc holds leaf b.boolQuery
      = combine 0 [
          ("filter", eachHolds leaf (b.filter.map Clause.toJson ++
            b.nested.map fun e => Body.nestedJson e.1 e.2)),
          ("must", eachHolds leaf (Clause.single "match_all" (.obj []) ::
            b.query.map Clause.toJson))] := rfl
    _ = _ := by
      simp [combine, eachHolds_eq_map, List.all_map, Function.comp_def, holds, Clause.single,
        Bool.and_comm]

end TableView.Index
