import TableView.Text.Blank

/-! Wildcard patterns and the text a column is compared with. -/
namespace TableView

inductive Piece
  /-- Any run of characters, also an empty one. -/
  | any
  | literal (text : String)
deriving DecidableEq, Repr

/-- A pattern for a whole field value. -/
abbrev Pattern := List Piece

namespace Pattern

def containing (needle : String) : Pattern := [.any, .literal needle, .any]

/-- Ends a pattern with a wildcard, unless it ends with one already. -/
def thenAny (p : Pattern) : Pattern := if p.getLast? = some .any then p else p ++ [.any]

/-- Ends a pattern with text, unless that is empty. -/
def thenText (p : Pattern) (cs : List Char) : Pattern :=
  if cs.isEmpty then p else p ++ [.literal (String.ofList cs)]

/-- A quote and the text from it to the next one. -/
def thenQuoted (p : Pattern) (cs : List Char) : Pattern := (thenAny p).thenText cs

/-- Every quote becomes a wildcard, several in a row only one. -/
def ofQuoted (cs : List Char) : Pattern :=
  match Text.parts (fun c => c == '"') cs with
  | [] => []
  | first :: others => others.foldl thenQuoted (thenText [] first)

/-- Writes the pattern with a wildcard for any text and an escape for literal text. -/
def render (wildcard : String) (escape : String → String) (p : Pattern) : String :=
  String.join (p.map fun
    | .any => wildcard
    | .literal text => escape text)

end Pattern

inductive TextMatch
  /-- The field is empty or missing. -/
  | blank
  /-- The field equals this text but for case. -/
  | equals (value : String)
  /-- Every pattern matches the field in lower case. -/
  | allOf (patterns : List Pattern)
deriving DecidableEq, Repr

end TableView
