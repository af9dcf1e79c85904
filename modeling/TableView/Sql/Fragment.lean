import TableView.Sql.Dialect
import TableView.Sql.Param

/-! Pieces of SQL text with bound values, marked by `?` until a statement is complete. -/
namespace TableView.Sql

structure Fragment where
  sql : String := ""
  params : List Param := []
deriving DecidableEq

namespace Fragment

def ofParam (sql : String) (p : Param) : Fragment := ⟨sql, [p]⟩

/-- A predicate that no row satisfies. -/
def never : Fragment := ⟨"1 = 0", []⟩

def isEmpty (f : Fragment) : Bool := f.sql.isEmpty

/-- Both texts in parentheses with a word between; an empty text gives way to the other. -/
def connect (word : String) (a b : Fragment) : Fragment where
  sql :=
    if a.isEmpty then b.sql
    else if b.isEmpty then a.sql
    else "(" ++ a.sql ++ ") " ++ word ++ " (" ++ b.sql ++ ")"
  params := a.params ++ b.params

def and (a b : Fragment) : Fragment := connect "AND" a b

def or (a b : Fragment) : Fragment := connect "OR" a b

def reduce? (op : Fragment → Fragment → Fragment) : List Fragment → Option Fragment
  | [] => none
  | f :: rest => some (rest.foldl op f)

def andAll? : List Fragment → Option Fragment := reduce? and

def orAll? : List Fragment → Option Fragment := reduce? or

def pushText (f : Fragment) (text : String) : Fragment := { f with sql := f.sql ++ text }

/-- Appends after a blank, where both have text. -/
def push (a b : Fragment) : Fragment where
  sql := a.sql ++ (if a.isEmpty || b.isEmpty then "" else " ") ++ b.sql
  params := a.params ++ b.params

/-- Numbers the markers from `n + 1` on, leaving quoted text alone. -/
def renderFrom (d : Dialect) (quoted : Bool) (n : Nat) : List Char → List Char
  | [] => []
  | c :: rest =>
    if c = '\'' then c :: renderFrom d (!quoted) n rest
    else if c = '?' ∧ quoted = false then
      (d.placeholder (n + 1)).toList ++ renderFrom d quoted (n + 1) rest
    else c :: renderFrom d quoted n rest

/-- The statement in a dialect, its markers numbered in order. -/
def render (f : Fragment) (d : Dialect) : Fragment :=
  { f with sql := String.ofList (renderFrom d false 0 f.sql.toList) }

end Fragment
end TableView.Sql
