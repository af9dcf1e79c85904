import TableView.Column.Basic
import TableView.Json.Decode

/-! Column definitions as JSON. -/
namespace TableView
open Json

def RangeOperator.words : List (String × RangeOperator) :=
  [("gt", .gt), ("gte", .gte), ("lt", .lt), ("lte", .lte)]

def MatchMode.words : List (String × MatchMode) := [("exact", .exact), ("contains", .contains)]

def TargetClause.words : List (String × TargetClause) := [("filter", .filter), ("having", .having)]

def NullOrdering.words : List (String × NullOrdering) :=
  [("first", .first), ("last", .last), ("backend_default", .backendDefault)]

/-- The kinds without settings of their own. -/
def ColumnKind.plain : List ColumnKind := [
  .string, .text, .integer, .decimal, .currency, .percentage, .boolean, .date, .datetime, .year,
  .price, .obfuscatedId, .polymorphic, .oneToMany, .manyToMany, .searchOnly, .enumeration,
  .foreignKey]

def ColumnKind.words : List (String × ColumnKind) := ColumnKind.plain.map fun k => (k.name, k)

/-- An empty list of members, or any object. -/
def noMembers? : Json → Option Unit
  | arr (_ :: _) => none
  | _ => some ()

namespace ColumnKind

def ofJson? (j : Json) : Option ColumnKind := do
  let (name, rest) ← tagged? "type" j
  if name = "date_range" then
    let ms ← members? ["operator"] rest
    return dateRange (← required? ms "operator" (innerWord? RangeOperator.words))
  else if name = "nested" then
    let ms ← members? ["path"] rest
    return nested (← required? ms "path" string?)
  else
    noMembers? rest
    Fields.get? words name

def toJson : ColumnKind → Json
  | dateRange op => .obj [("operator", .str op.word), ("type", .str "date_range")]
  | nested path => .obj [("path", .str path), ("type", .str "nested")]
  | kind => .obj [("type", .str kind.name)]

end ColumnKind

def MatchMode.word : MatchMode → String
  | exact => "exact"
  | contains => "contains"

def TargetClause.word : TargetClause → String
  | filter => "filter"
  | having => "having"

def NullOrdering.word : NullOrdering → String
  | first => "first"
  | last => "last"
  | backendDefault => "backend_default"

namespace SearchOptions

def ofJson? (j : Json) : Option SearchOptions := do
  let ms ← members? ["fuzzy", "match_mode", "target_clause"] j
  return {
    fuzzy := ← defaulted? ms "fuzzy" bool? true
    matchMode := ← defaulted? ms "match_mode" (word? MatchMode.words) .contains
    targetClause := ← defaulted? ms "target_clause" (word? TargetClause.words) .filter }

def toJson (o : SearchOptions) : Json :=
  .obj [("fuzzy", .bool o.fuzzy), ("match_mode", .str o.matchMode.word),
    ("target_clause", .str o.targetClause.word)]

end SearchOptions

namespace AssociationMode

def ofJson? (j : Json) : Option AssociationMode := do
  let (name, rest) ← tagged? "mode" j
  if name = "id_list" then
    noMembers? rest
    return idList
  else if name = "text_search" then
    let ms ← members? ["field"] rest
    return textSearch (← optional? ms "field" string?)
  else none

def toJson : AssociationMode → Json
  | idList => .obj [("mode", .str "id_list")]
  | textSearch field => .obj [("field", ofOption .str field), ("mode", .str "text_search")]

end AssociationMode

namespace AssociationOptions

def ofJson? (j : Json) : Option AssociationOptions := do
  let ms ← members? ["name", "mode"] j
  return {
    name := ← optional? ms "name" string?
    mode := ← defaulted? ms "mode" AssociationMode.ofJson? .idList }

def toJson (o : AssociationOptions) : Json :=
  .obj [("mode", o.mode.toJson), ("name", ofOption .str o.name)]

end AssociationOptions

namespace ColumnData

def ofJson? (j : Json) : Option ColumnData := do
  let ms ← members? ["name", "backend_field", "column_type", "search", "null_ordering", "sortable",
    "sort_field", "type_field", "association"] j
  return {
    name := ← required? ms "name" string?
    backendField := ← required? ms "backend_field" string?
    kind := ← required? ms "column_type" ColumnKind.ofJson?
    search := ← defaulted? ms "search" SearchOptions.ofJson? {}
    nullOrdering := ← defaulted? ms "null_ordering" (word? NullOrdering.words) .backendDefault
    sortable := ← defaulted? ms "sortable" bool? true
    sortOverride := ← optional? ms "sort_field" string?
    typeOverride := ← optional? ms "type_field" string?
    association := ← optional? ms "association" AssociationOptions.ofJson? }

def toJson (c : ColumnData) : Json :=
  .obj [("association", ofOption AssociationOptions.toJson c.association),
    ("backend_field", .str c.backendField), ("column_type", c.kind.toJson), ("name", .str c.name),
    ("null_ordering", .str c.nullOrdering.word), ("search", c.search.toJson),
    ("sort_field", ofOption .str c.sortOverride), ("sortable", .bool c.sortable),
    ("type_field", ofOption .str c.typeOverride)]

end ColumnData
end TableView
