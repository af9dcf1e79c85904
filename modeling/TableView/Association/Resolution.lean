import TableView.Sql.Predicate
import TableView.Store.Basic

/-! Relationship terms: they select related rows, and these the owners to keep. -/
namespace TableView

inductive Resolution
  | unfiltered
  /-- Owners whose key is one of the ids, which ascend. -/
  | owners (key : String) (ids : List Int)
deriving DecidableEq, Repr

namespace Association
open Sql

/-- Puts a number in its place in an ascending list, unless it is there. -/
def insertId (n : Int) : List Int → List Int
  | [] => [n]
  | m :: rest =>
    if n < m then n :: m :: rest
    else if n = m then m :: rest
    else m :: insertId n rest

/-- The distinct numbers of a list, ascending. -/
def sortIds (ids : List Int) : List Int := ids.foldl (fun sorted n => insertId n sorted) []

/-- The positive numbers in a list separated by commas; all else in it is passed over. -/
def parseIds (raw : String) : List Int :=
  let tokens := Text.parts (fun c => c = ',') raw.toList
  sortIds ((tokens.filterMap fun t => Text.int64? (Text.trimmed t)).filter (fun n => 0 < n))

/-- The field that holds the ids of related rows. -/
def relatedId (a : Association) : String :=
  match a.kind with
  | .manyToMany =>
    match a.join with
    | some j => j.table ++ "." ++ j.relatedKey
    | none => a.relatedKey
  | _ => a.relatedTable ++ "." ++ a.relatedKey

/-- The text that contains the needle, as a pattern. -/
def needlePattern (needle : String) : String := "%" ++ Predicate.escapeLike needle ++ "%"

def contains (a : Association) (needle field : String) : Predicate :=
  .like (a.relatedTable ++ "." ++ field) (needlePattern needle)

/-- The given field, else all textual columns of the related table. -/
def searchedFields (s : AssociationSource) (a : Association) (field : Option String) :
    Session (List String) :=
  match field with
  | some field => return [field]
  | none => do
    let columns ← Session.columns s a.relatedTable
    return (columns.filter fun c => c.2.isTextual).map Prod.fst

/-- The condition on related rows; none restricts nothing. -/
def related? (s : AssociationSource) (a : Association) (mode : AssociationMode) (raw : String) :
    Session (Option Predicate) :=
  match mode with
  | .idList =>
    match parseIds raw with
    | [] => return none
    | ids => return some (.isIn a.relatedId ids)
  | .textSearch field => do
    let needle := Text.lower (Text.trim raw)
    if needle = "" then return none
    let fields ← searchedFields s a field
    return Predicate.anyOf? (fields.map (a.contains needle))

/-- The owner's field that the selected ids refer to. -/
def ownerField (a : Association) : String :=
  match a.kind with
  | .belongsTo => a.foreignKey
  | _ => a.ownerKey

/-- Selects the owners' ids, up to the condition on related rows. -/
def selectOwners (a : Association) : String :=
  let t := a.relatedTable
  let viaRelated := fun (key : String) => "SELECT " ++ t ++ "." ++ key ++ " FROM " ++ t ++ " WHERE"
  match a.kind, a.join with
  | .manyToMany, some j =>
    "SELECT " ++ j.table ++ "." ++ j.ownerKey ++ " FROM " ++ j.table ++ " INNER JOIN " ++ t ++
      " ON " ++ t ++ "." ++ a.relatedKey ++ " = " ++ j.table ++ "." ++ j.relatedKey ++ " WHERE"
  | .belongsTo, _ => viaRelated a.relatedKey
  | _, _ => viaRelated a.foreignKey

/-- Only has-many rows carry the type of their owner. -/
def typed (a : Association) (p : Predicate) : Predicate :=
  match a.kind, a.polymorphic with
  | .hasMany, some link =>
    .and p (.compare (.field (a.relatedTable ++ "." ++ link.typeColumn)) .eq (.text link.typeName))
  | _, _ => p

/-- The query for the owners of the related rows that satisfy a condition. -/
def ownerQuery (a : Association) (p : Predicate) : Fragment :=
  Fragment.push { sql := a.selectOwners } ((a.typed p).fragment {})

/-- Resolves a term on a relationship column of a table, by at most one query for ids. -/
def resolve (s : AssociationSource) (table : String) (c : ColumnData) (raw : String) :
    Session Resolution := do
  match s.association table c.associationName with
  | none => throw (.associationNotFound table c.associationName)
  | some a =>
    match ← a.related? s c.associationMode raw with
    | none => return .unfiltered
    | some p => return .owners a.ownerField (sortIds (← Session.pluckIds s (a.ownerQuery p)))

end Association
end TableView
