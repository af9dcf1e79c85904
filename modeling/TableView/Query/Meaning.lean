import TableView.Association.Resolution
import TableView.Registry

/-! What a search term means before any backend is chosen. -/
namespace TableView

inductive TermMeaning
  /-- Rows that own one of the related rows found. -/
  | owners (key : String) (ids : List Int)
  | value (t : ParsedTerm)

/-- How the terms of a query are read, whatever answers it. -/
structure TermReader where
  /-- Where relationships are looked up, and the owning table. -/
  associations : Option (AssociationSource × String)
  deobfuscate : String → String

namespace TermReader

def readRelationship (r : TermReader) (c : ColumnData) (raw : String) :
    Session (Option TermMeaning) := do
  match r.associations with
  | none => return none
  | some (source, table) =>
    match ← Association.resolve source table c raw with
    | .unfiltered => return none
    | .owners key ids => return some (.owners key ids)

/-- A term that cannot be read drops out; only a price out of range is an error. -/
def readValue (r : TermReader) (c : ColumnData) (raw : String) :
    Except Error (Option TermMeaning) :=
  match Term.parse c r.deobfuscate raw with
  | .ok t => .ok (some (.value t))
  | .error .overflow => .error .overflow
  | .error _ => .ok none

/-- The meaning of a term on a column, unless the term drops out. -/
def read (r : TermReader) (c : ColumnData) (raw : String) : Session (Option TermMeaning) :=
  if c.kind.isRelationship then r.readRelationship c raw else Session.ofExcept (r.readValue c raw)

end TermReader

/-- Reads terms one after the other and keeps what does not drop out. -/
def Session.gather {α : Type} (read : Column → String → Session (Option α)) :
    List (Column × String) → Session (List (Column × α))
  | [] => return []
  | (c, raw) :: rest => do
    match ← read c raw with
    | some a => return (c, a) :: (← gather read rest)
    | none => gather read rest

/-- The error for a strategy that answers for the other kind of backend. -/
def Column.wrongStrategy {α : Type} (c : Column) (operation backend answer : String) :
    Except Error α :=
  .error (.contract operation
    ("strategy for column " ++ c.name ++ " returned a " ++ backend ++ " " ++ answer))

end TableView
