import TableView.Sql.Fragment
import TableView.Term.Basic

/-! Conditions on a row, their SQL text, and the condition that a term puts on its column. -/
namespace TableView.Sql

inductive Operand
  | field (name : String)
  /-- The calendar year of a field. -/
  | yearOf (name : String)
deriving DecidableEq

inductive Comparison | eq | gt | gte | lt | lte
deriving DecidableEq

inductive Predicate
  /-- No text at all, hence no restriction. -/
  | nothing
  | never
  | compare (left : Operand) (op : Comparison) (right : Param)
  /-- Equality but for case. -/
  | sameText (field value : String)
  /-- A pattern with `%` for any text and `!` before what stands for itself; case does not count. -/
  | like (field pattern : String)
  /-- Empty or null. -/
  | blank (field : String)
  | isIn (field : String) (ids : List Int)
  /-- Both conditions, written without parentheses. -/
  | both (a b : Predicate)
  | and (a b : Predicate)
  | or (a b : Predicate)
deriving DecidableEq

def Operand.sql (d : Dialect) : Operand → String
  | field name => name
  | yearOf name => d.yearOf name

def Comparison.sql : Comparison → String
  | eq => "="
  | gt => ">"
  | gte => ">="
  | lt => "<"
  | lte => "<="

def Comparison.ofRange : RangeOperator → Comparison
  | .gt => gt
  | .gte => gte
  | .lt => lt
  | .lte => lte

namespace Predicate

/-- One marker for each id. -/
def inList (field : String) (ids : List Int) : Fragment where
  sql := field ++ " IN (" ++ ", ".intercalate (ids.map fun _ => "?") ++ ")"
  params := ids.map .integer

def likeText (caps : Capabilities) (field : String) : String :=
  (if caps.ilike then field ++ " ILIKE" else "LOWER(" ++ field ++ ") LIKE") ++ " ? ESCAPE '!'"

/-- The condition as SQL text, every value bound. -/
def fragment (caps : Capabilities) : Predicate → Fragment
  | nothing => {}
  | never => .never
  | compare left op right =>
    .ofParam (left.sql caps.dialect ++ " " ++ op.sql ++ " ?") right
  | sameText field value => .ofParam ("LOWER(" ++ field ++ ") = LOWER(?)") (.text value)
  | like field pattern => .ofParam (likeText caps field) (.text pattern)
  | blank field => { sql := "(" ++ field ++ " = '' OR " ++ field ++ " IS NULL)" }
  | isIn field ids => inList field ids
  | both a b =>
    let a := fragment caps a
    let b := fragment caps b
    { sql := a.sql ++ " AND " ++ b.sql, params := a.params ++ b.params }
  | and a b => (fragment caps a).and (fragment caps b)
  | or a b => (fragment caps a).or (fragment caps b)

/-- The conjunction of conditions, nothing for none. -/
def allOf : List Predicate → Predicate
  | [] => nothing
  | p :: rest => rest.foldl and p

/-- The disjunction of conditions, if there are any. -/
def anyOf? : List Predicate → Option Predicate
  | [] => none
  | p :: rest => some (rest.foldl or p)

/-- Puts a `!` before `%`, `_` and `!`, so that text stands for itself in a pattern. -/
def escapeLike (text : String) : String :=
  String.ofList (text.toList.flatMap fun c =>
    if c = '%' ∨ c = '_' ∨ c = '!' then ['!', c] else [c])

def pattern (p : Pattern) : String := p.render "%" escapeLike

def ofText (field : String) : TextMatch → Predicate
  | .blank => blank field
  | .equals value => sameText field value
  | .allOf patterns => allOf (patterns.map fun p => like field (pattern p))

def between (field : String) (low high : Param) : Predicate :=
  both (compare (.field field) .gte low) (compare (.field field) .lte high)

/-- An id that reads as a number is bound as one. -/
def idParam (id : String) : Param :=
  match Text.int64? id.toList with
  | some n => .integer n
  | none => .text id

def ofRange (c : ColumnData) (p : Period) : Predicate :=
  match c.kind with
  | .dateRange op =>
    compare (.field c.backendField) (.ofRange op)
      (.timestamp (if op.usesEnd then p.last else p.start))
  | .date => between c.backendField (.date p.start.date) (.date p.last.date)
  | _ => between c.backendField (.timestamp p.start) (.timestamp p.last)

/-- The condition that a term puts on its column. -/
def ofTerm (c : ColumnData) : ParsedTerm → Predicate
  | .text m => ofText c.backendField m
  | .integer n | .cents n | .id n => compare (.field c.backendField) .eq (.integer n)
  | .decimal d => compare (.field c.backendField) .eq (.decimal d)
  | .boolean b => compare (.field c.backendField) .eq (.boolean b)
  | .year n => compare (.yearOf c.backendField) .eq (.integer n)
  | .range p => ofRange c p
  | .noMatch => never
  | .polymorphic typeName id =>
    both (compare (.field c.idField) .eq (idParam id))
      (compare (.field c.typeField) .eq (.text typeName))

end Predicate
end TableView.Sql
