import TableView.Term.Period
import TableView.Term.Text

/-! Search terms read by the kind of their column. -/
namespace TableView

inductive ParsedTerm
  | text (m : TextMatch)
  | integer (n : Int)
  | decimal (d : Decimal.Bounded)
  | cents (n : Int)
  | boolean (b : Bool)
  | year (n : Int)
  | range (p : Period)
  | id (n : Int)
  /-- An identifier that cannot be unscrambled. -/
  | noMatch
  | polymorphic (typeName id : String)
deriving DecidableEq

namespace Term

/-- An identifier counts only when unscrambling changes it and leaves a number. -/
def obfuscatedId (deobfuscate : String → String) (raw : String) : ParsedTerm :=
  let token := Text.trim raw
  let plain := deobfuscate token
  if plain = token then .noMatch
  else
    match Text.int64? (Text.trimmed plain.toList) with
    | some n => .id n
    | none => .noMatch

/-- Reads a term for a column; relationships have a way of their own. -/
def parse (c : ColumnData) (deobfuscate : String → String) (raw : String) :
    Except TermError ParsedTerm :=
  match c.kind with
  | .string | .text | .searchOnly | .nested _ => (text c.search raw).map .text
  | .enumeration => .ok (.text (.equals (Text.lower (Text.trim raw))))
  | .integer | .foreignKey => (integer raw).map .integer
  | .decimal | .currency | .percentage => (decimal raw).map .decimal
  | .price => (cents raw).map .cents
  | .boolean => .ok (.boolean (boolean raw))
  | .year => (year raw).map .year
  | .date | .datetime | .dateRange _ => (period raw).map .range
  | .obfuscatedId => .ok (obfuscatedId deobfuscate raw)
  | .polymorphic => (polymorphic raw).map fun (t, i) => .polymorphic t i
  | .oneToMany | .manyToMany => .error (.unsupported c.kind.name "term parser")

end Term
end TableView
