import TableView.Index.Body
import TableView.Proofs.Sql.Condition

/-! The documented meaning of queries over the documents of an index. -/
namespace TableView.Index
open Text (CaseFolding)
open Sql (Param)

structure Document where
  value : Row
  /-- Text in these fields is folded, both when it is stored and when it is asked for. -/
  isFolded : String → Bool

namespace Document
variable (F : CaseFolding) (d : Document)

def sought (field text : String) : String := if d.isFolded field then F.text text else text

/-- Whether the field holds a value. -/
def term (field : String) : Json → Bool
  | .str s => d.value field = .text (d.sought F field s)
  | .num (.int n) => d.value field = .integer n
  | .bool b => d.value field = .boolean b
  | _ => false

def wildcard (field pattern : String) : Bool :=
  (d.value field).accepts (Wildcards.index.read (d.sought F field pattern).toList)

/-- The queries that hold no other queries. -/
def leaf (kind : String) (parts : Fields Json) : Bool :=
  match kind, parts with
  | "match_all", _ => true
  | "term", [(field, v)] => d.term F field v
  | "terms", [(field, .arr vs)] => vs.any (d.term F field)
  | "wildcard", [(field, .obj [("value", .str pattern)])] => d.wildcard F field pattern
  | "exists", [("field", .str field)] => !(d.value field).isNull
  | _, _ => false

/-- How many of the optional queries must hold: one if there is nothing else to hold. -/
def minimum (parts : Fields Json) : Nat :=
  let required := parts.contains "must" || parts.contains "filter" || !parts.contains "should"
  ((parts.get? "minimum_should_match").bind Json.nat?).getD (if required then 0 else 1)

/-- The combination of the answers to the queries of a `bool` query. -/
def combine (minimum : Nat) (answers : Fields (List Bool)) : Bool :=
  let part := fun key => (answers.get? key).getD []
  (part "must").all id && (part "filter").all id && !(part "must_not").any id &&
    minimum ≤ (part "should").countP id

mutual

/-- Whether a document satisfies a query. -/
def satisfies : Json → Bool
  | .obj [(kind, .obj parts)] =>
    if kind = "bool" then combine (minimum parts) (answers parts) else d.leaf F kind parts
  | _ => false

def answers : List (String × Json) → Fields (List Bool)
  | [] => []
  | (key, .arr queries) :: rest => (key, eachSatisfies queries) :: answers rest
  | _ :: rest => answers rest

def eachSatisfies : List Json → List Bool
  | [] => []
  | query :: rest => satisfies query :: eachSatisfies rest

end

variable {F d}

theorem combine_must (answers : List Bool) : combine 0 [("must", answers)] = answers.all id := by
  simp [combine]

theorem combine_mustNot (answers : List Bool) :
    combine 0 [("must_not", answers)] = !answers.any id := by
  simp [combine]

@[simp] theorem satisfies_none : d.satisfies F Clause.none.toJson = false := by
  have hall : d.satisfies F (.obj [("match_all", .obj [])]) = true := rfl
  calc d.satisfies F Clause.none.toJson
      = combine 0 [("must_not", [d.satisfies F (.obj [("match_all", .obj [])])])] := rfl
    _ = false := by simp [combine_mustNot, hall]

theorem eachSatisfies_listToJson (clauses : List Clause) :
    d.eachSatisfies F (Clause.listToJson clauses) =
      clauses.map fun c => d.satisfies F c.toJson := by
  induction clauses with
  | nil => rfl
  | cons c rest ih => simp [Clause.listToJson, eachSatisfies, ih]

@[simp] theorem satisfies_all (clauses : List Clause) :
    d.satisfies F (Clause.all clauses).toJson = clauses.all fun c => d.satisfies F c.toJson := by
  calc d.satisfies F (Clause.all clauses).toJson
      = combine 0 [("must", d.eachSatisfies F (Clause.listToJson clauses))] := rfl
    _ = clauses.all fun c => d.satisfies F c.toJson := by
      simp [combine_must, eachSatisfies_listToJson, List.all_map]

end Document
end TableView.Index
