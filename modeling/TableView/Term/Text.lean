import TableView.Column.Basic
import TableView.Error
import TableView.Term.Pattern
import TableView.Text.Lower

/-! Reading text terms and polymorphic keys. -/
namespace TableView.Term
open TableView.Text (lower trim trimmed)

/-- Nothing, `null` and `nil` ask for blank fields. -/
def isBlankWord (value : String) : Bool :=
  let word := lower (trim value)
  word = "" || word = "null" || word = "nil"

def isQuoted (cs : List Char) : Bool :=
  2 ≤ cs.length && cs.head? = some '"' && cs.getLast? = some '"'

/-- One pattern for a quoted text, else one for each word. -/
def patterns (cs : List Char) : List Pattern :=
  if isQuoted cs then [.ofQuoted cs]
  else (Text.words cs).map fun word => .containing (String.ofList word)

def text (o : SearchOptions) (raw : String) : Except TermError TextMatch :=
  let value := lower raw
  if o.fuzzy then
    match patterns (trimmed value.toList) with
    | [] => .error (.unparseable "text" raw)
    | ps => .ok (.allOf ps)
  else if isBlankWord value then .ok .blank
  else
    match o.matchMode with
    | .exact => .ok (.equals value)
    | .contains => .ok (.allOf [.containing value])

/-- The parts before and after the last underscore. -/
def splitLast? (cs : List Char) : Option (List Char × List Char) :=
  match cs.reverse.span (fun c => c != '_') with
  | (after, _ :: before) => some (before.reverse, after.reverse)
  | _ => none

/-- A type name and an id, split at the last underscore, neither of them empty. -/
def polymorphic (raw : String) : Except TermError (String × String) :=
  match splitLast? (trimmed raw.toList) with
  | some (t :: ts, i :: is) => .ok (String.ofList (t :: ts), String.ofList (i :: is))
  | _ => .error (.unparseable "polymorphic_association" raw)

end TableView.Term
