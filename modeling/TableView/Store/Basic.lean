import TableView.Column.Kind
import TableView.Store.Session

/-! Record stores and search indexes: what a query may ask of them. -/
namespace TableView

/-- A row or document by field names. -/
abbrev Record := Fields Json

inductive AssociationKind
  /-- The owner holds the key of the related row. -/
  | belongsTo
  /-- Related rows hold the key of their owner. -/
  | hasMany
  /-- A join table holds both keys. -/
  | manyToMany
deriving DecidableEq, Repr

/-- Related rows belong to an owner only when their type column holds the owner's type. -/
structure TypeLink where
  typeColumn : String
  typeName : String
deriving DecidableEq, Repr

structure JoinTable where
  table : String
  ownerKey : String
  relatedKey : String
deriving DecidableEq, Repr

structure Association where
  name : String
  kind : AssociationKind
  relatedTable : String
  ownerKey : String := "id"
  relatedKey : String := "id"
  foreignKey : String
  polymorphic : Option TypeLink := none
  join : Option JoinTable := none
deriving DecidableEq, Repr

/-- What a store says about the number of rows of a relation. -/
inductive RelationSize
  | exact (n : Nat)
  /-- The number of members of each group. -/
  | grouped (members : List Nat)
  | unknown
deriving DecidableEq, Repr

/-- The associations of a database, and what may be asked about its tables and for identifiers. -/
structure AssociationSource where
  association : (table name : String) → Option Association
  /-- The names and kinds of a table's columns, given the calls made before. -/
  columns : List Call → (table : String) → Except Error (List (String × ColumnKind))
  /-- The first column of each row, given the calls made before. -/
  pluckIds : List Call → Sql.Fragment → Except Error (List Int)

/-- A database; its answers may change from call to call. -/
structure RecordStore extends AssociationSource where
  capabilities : Sql.Capabilities
  /-- The plain identifier for a scrambled one, or the same text where it is none. -/
  deobfuscate : String → String
  select : List Call → Sql.Fragment → Except Error (List Record)
  size : List Call → Sql.Relation → Except Error RelationSize
  count : List Call → Sql.Fragment → Except Error Nat

/-- An index of documents; its answers may change from call to call. -/
structure SearchIndex where
  search : List Call → Json → Except Error Json
  /-- The searchable copy of a field, where it has a name of its own. -/
  searchField : String → Option String

namespace Session

def columns (s : AssociationSource) (table : String) : Session (List (String × ColumnKind)) :=
  ask (.columns table) (s.columns · table)

def pluckIds (s : AssociationSource) (f : Sql.Fragment) : Session (List Int) :=
  ask (.pluckIds f) (s.pluckIds · f)

def select (s : RecordStore) (f : Sql.Fragment) : Session (List Record) :=
  ask (.select f) (s.select · f)

def size (s : RecordStore) (r : Sql.Relation) : Session RelationSize := ask (.size r) (s.size · r)

def count (s : RecordStore) (f : Sql.Fragment) : Session Nat := ask (.count f) (s.count · f)

def search (i : SearchIndex) (body : Json) : Session Json := ask (.search body) (i.search · body)

end Session
end TableView
