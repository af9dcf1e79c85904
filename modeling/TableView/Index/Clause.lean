import TableView.Calendar.Text
import TableView.Term.Basic

/-! Conditions on an indexed document, and the condition that a term puts on its column. -/
namespace TableView.Index

inductive Clause
  /-- The field holds this value. -/
  | term (field : String) (value : Json)
  | terms (field : String) (ids : List Int)
  /-- The whole field matches a pattern of `*` for any text, `?` for one character and `\` before
  what stands for itself. -/
  | wildcard (field pattern : String)
  /-- The field lies in a calendar year. -/
  | inYear (field : String) (year : Int)
  /-- The field lies on one side of an instant. -/
  | bound (field : String) (op : RangeOperator) (instant : String)
  | exists (field : String)
  /-- Empty or missing. -/
  | blank (field : String)
  | all (clauses : List Clause)
  | none
  /-- A clause given as it is. -/
  | raw (body : Json)

/-- Scored clauses rank documents, unscored ones only select them. -/
inductive Placed
  | query (c : Clause)
  | filter (c : Clause)

namespace Clause

def single (key : String) (j : Json) : Json := .obj [(key, j)]

def onField (kind field : String) (j : Json) : Json := single kind (single field j)

mutual

def toJson : Clause → Json
  | term field value => onField "term" field value
  | terms field ids => onField "terms" field (.arr (ids.map .int))
  | wildcard field pattern => onField "wildcard" field (single "value" (.str pattern))
  | inYear field year =>
    let year := .str (toString year ++ "||/y")
    onField "range" field (.obj [("format", .str "yyyy"), ("gte", year), ("lte", year)])
  | bound field op instant => onField "range" field (single op.word (.str instant))
  | .exists field => onField "exists" "field" (.str field)
  | blank field =>
    single "bool" (.obj [
      ("minimum_should_match", .int 1),
      ("should", .arr [
        onField "term" field (.str ""),
        onField "bool" "must_not" (.arr [onField "exists" "field" (.str field)])])])
  | all clauses => onField "bool" "must" (.arr (listToJson clauses))
  | none => onField "bool" "must_not" (.arr [single "match_all" (.obj [])])
  | raw body => body

def listToJson : List Clause → List Json
  | [] => []
  | c :: rest => toJson c :: listToJson rest

end

/-- One clause stands for itself, others for their conjunction. -/
def allOf : List Clause → Clause
  | [c] => c
  | cs => all cs

/-- Puts a backslash before `*`, `?` and backslashes, so that text stands for itself. -/
def escapeWildcard (text : String) : String :=
  String.ofList (text.toList.flatMap fun c =>
    if c = '*' ∨ c = '?' ∨ c = '\\' then ['\\', c] else [c])

def ofPattern (field : String) (p : Pattern) : Clause :=
  wildcard field (p.render "*" escapeWildcard)

/-- Equality on an enumeration matches parts of the value too. -/
def ofText (kind : ColumnKind) (field : String) : TextMatch → Placed
  | .blank => .filter (blank field)
  | .equals value =>
    if kind = .enumeration then .query (ofPattern field (.containing value))
    else .filter (term field (.str value))
  | .allOf patterns => .query (allOf (patterns.map (ofPattern field)))

/-- An id that reads as a number is compared as one. -/
def idValue (id : String) : Json :=
  match Text.int64? id.toList with
  | some n => .int n
  | Option.none => .str id

/-- A date field is matched against its searchable text, a date range against one instant. -/
def ofRange (c : ColumnData) (p : Period) (raw searchField : String) : Placed :=
  match c.kind with
  | .dateRange op =>
    .filter (bound c.clauseField op (if op.usesEnd then p.last else p.start).milliText)
  | _ => .query (ofPattern searchField (.containing (Text.lower (Text.trim raw))))

/-- The condition that a term puts on its column. -/
def ofTerm (c : ColumnData) (raw searchField : String) : ParsedTerm → Placed
  | .text m => ofText c.kind c.clauseField m
  | .integer n | .cents n | .id n => .filter (term c.clauseField (.int n))
  | .decimal d => .filter (term c.clauseField (.float d.toFloat))
  | .boolean b => .filter (term c.clauseField (.bool b))
  | .year n => .filter (inYear c.clauseField n)
  | .range p => ofRange c p raw searchField
  | .noMatch => .filter none
  | .polymorphic typeName id =>
    .filter (allOf [term c.idField (idValue id), term c.typeField (.str typeName)])

end Clause

def Placed.clause : Placed → Clause
  | query c => c
  | filter c => c

/-- Documents without the field go first or last. -/
structure SortKey where
  field : String
  direction : SortDirection
  missingFirst : Bool
deriving DecidableEq, Repr

namespace SortKey

def toJson (k : SortKey) : Json :=
  Clause.single k.field (.obj [
    ("missing", .str (if k.missingFirst then "_first" else "_last")),
    ("order", .str k.direction.word)])

/-- The keys that sort by a column. -/
def ofColumn (c : ColumnData) (d : SortDirection) : List SortKey :=
  c.sortKeys.map fun field => ⟨field, d, c.nullOrdering.nullsFirst d⟩

end SortKey
end TableView.Index
