/-! What a column holds, which decides how its search terms are read. -/
namespace TableView

inductive RangeOperator | gt | gte | lt | lte
deriving DecidableEq, Repr

namespace RangeOperator

def word : RangeOperator → String
  | gt => "gt"
  | gte => "gte"
  | lt => "lt"
  | lte => "lte"

def sql : RangeOperator → String
  | gt => ">"
  | gte => ">="
  | lt => "<"
  | lte => "<="

/-- After a period means after its end, and not after it means not after its end. -/
def usesEnd : RangeOperator → Bool
  | gt | lte => true
  | gte | lt => false

end RangeOperator

inductive ColumnKind
  | string | text | integer | decimal | currency | percentage | boolean
  | date | datetime | year | price
  /-- An identifier that is shown scrambled. -/
  | obfuscatedId
  /-- A type name and an id, together naming a row of some table. -/
  | polymorphic
  | oneToMany | manyToMany
  /-- Searchable text that is not shown. -/
  | searchOnly
  | enumeration | foreignKey
  /-- A date compared with one bound. -/
  | dateRange (operator : RangeOperator)
  /-- A field inside nested documents. -/
  | nested (path : String)
deriving DecidableEq, Repr

namespace ColumnKind

def name : ColumnKind → String
  | string => "string"
  | text => "text"
  | integer => "integer"
  | decimal => "decimal"
  | currency => "currency"
  | percentage => "percentage"
  | boolean => "boolean"
  | date => "date"
  | datetime => "datetime"
  | year => "year"
  | price => "price"
  | obfuscatedId => "obfuscated_id"
  | polymorphic => "polymorphic_association"
  | oneToMany => "one_to_many"
  | manyToMany => "many_to_many"
  | searchOnly => "search_only_field"
  | enumeration => "enumeration"
  | foreignKey => "foreign_key"
  | dateRange _ => "date_range"
  | nested _ => "nested"

def isTextual : ColumnKind → Bool
  | string | text | searchOnly => true
  | _ => false

/-- Terms on a relationship name rows of another table. -/
def isRelationship : ColumnKind → Bool
  | oneToMany | manyToMany => true
  | _ => false

end ColumnKind

end TableView
