import TableView.Json.Decode
import TableView.Store.Basic

/-! Associations and database capabilities as JSON. -/
namespace TableView
open Json

def AssociationKind.words : List (String × AssociationKind) := [
  ("belongs_to", .belongsTo), ("has_many", .hasMany), ("has_and_belongs_to_many", .manyToMany)]

def TypeLink.ofJson? (j : Json) : Option TypeLink := do
  let ms ← members? ["type_column", "type_name"] j
  return {
    typeColumn := ← required? ms "type_column" string?
    typeName := ← required? ms "type_name" string? }

def JoinTable.ofJson? (j : Json) : Option JoinTable := do
  let ms ← members? ["table", "owner_key", "related_key"] j
  return {
    table := ← required? ms "table" string?
    ownerKey := ← required? ms "owner_key" string?
    relatedKey := ← required? ms "related_key" string? }

def Association.ofJson? (j : Json) : Option Association := do
  let ms ← members? ["name", "kind", "related_table", "owner_key", "related_key", "foreign_key",
    "polymorphic", "join"] j
  return {
    name := ← required? ms "name" string?
    kind := ← required? ms "kind" (word? AssociationKind.words)
    relatedTable := ← required? ms "related_table" string?
    ownerKey := ← required? ms "owner_key" string?
    relatedKey := ← required? ms "related_key" string?
    foreignKey := ← required? ms "foreign_key" string?
    polymorphic := ← optional? ms "polymorphic" TypeLink.ofJson?
    join := ← optional? ms "join" JoinTable.ofJson? }

namespace Sql

def Dialect.word : Dialect → String
  | .postgres => "postgres"
  | .mysql => "mysql"
  | .sqlite => "sqlite"

def Dialect.words : List (String × Dialect) :=
  [Dialect.postgres, .mysql, .sqlite].map fun d => (d.word, d)

def Capabilities.ofJson? (j : Json) : Option Capabilities := do
  let ms ← members? ["dialect", "native_null_ordering", "supports_ilike"] j
  return {
    dialect := ← defaulted? ms "dialect" (word? Dialect.words) .postgres
    nullOrdering := ← defaulted? ms "native_null_ordering" bool? false
    ilike := ← defaulted? ms "supports_ilike" bool? false }

def Capabilities.toJson (c : Capabilities) : Json :=
  .obj [("dialect", .str c.dialect.word), ("native_null_ordering", .bool c.nullOrdering),
    ("supports_ilike", .bool c.ilike)]

end Sql
end TableView
