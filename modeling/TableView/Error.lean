/-! What can go wrong, by cause, and the wording of each cause. -/
namespace TableView

/-- Why a search term yields no predicate. -/
inductive TermError
  | unknownColumn (column : String)
  | unparseable (columnType raw : String)
  | dateParse (raw : String)
  | unsupported (columnType backend : String)
  /-- A price that cannot be held in cents, or an instant before the calendar; unlike the others it
  stops the whole query. -/
  | overflow
deriving DecidableEq, Repr

def TermError.message : TermError → String
  | unknownColumn column => "unknown column: " ++ column
  | unparseable columnType raw => "unparseable term '" ++ raw ++ "' for " ++ columnType ++ " column"
  | dateParse raw => "invalid date term '" ++ raw ++ "'"
  | unsupported columnType backend =>
    columnType ++ " columns are not searchable on " ++ backend
  | overflow => "price out of range"

inductive Error
  | duplicateColumn (name : String)
  | unknownField (table name : String)
  /-- A strategy answered for the other kind of backend, or a call came out of order. -/
  | contract (operation message : String)
  | associationNotFound (table association : String)
  | notSortable (column : String)
  | connectionFailed (backend message : String)
  | queryFailed (backend message : String)
  | malformed (backend message : String)
  | internal (backend message : String)
  | overflow
deriving DecidableEq, Repr

def Error.message : Error → String
  | duplicateColumn name => "duplicate column: " ++ name
  | unknownField table name => "unknown column " ++ name ++ " on " ++ table
  | contract operation message => "adapter contract violation in " ++ operation ++ ": " ++ message
  | associationNotFound table association =>
    "association not found: " ++ table ++ "." ++ association
  | notSortable column => "column is not sortable: " ++ column
  | connectionFailed backend message => "connection failed to " ++ backend ++ ": " ++ message
  | queryFailed backend message => "query execution failed on " ++ backend ++ ": " ++ message
  | malformed backend message => "malformed response from " ++ backend ++ ": " ++ message
  | internal backend message => "internal error in " ++ backend ++ ": " ++ message
  | overflow => TermError.message .overflow

end TableView
