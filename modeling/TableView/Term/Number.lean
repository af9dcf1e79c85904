import TableView.Decimal.Bounded
import TableView.Error
import TableView.Text.Blank
import TableView.Text.Digit
import TableView.Text.Lower

/-! Reading numeric terms: what cannot belong to the number is passed over. -/
namespace TableView.Term

/-- The number spelled by all digits of the term, zero when there are none. -/
def integer (raw : String) : Except TermError Int :=
  match Text.fit64? (Text.digitsValue (raw.toList.filter Char.isDigit)) with
  | some n => .ok n
  | none => .error (.unparseable "integer" raw)

/-- The digits before the first point and those from it to the second. -/
def keptDigits (cs : List Char) : List Char × List Char :=
  let isInner := fun c => c != '.'
  let digits := fun cs : List Char => (cs.takeWhile isInner).filter Char.isDigit
  (digits cs, digits ((cs.dropWhile isInner).drop 1))

def decimal (raw : String) : Except TermError Decimal.Bounded :=
  let (whole, fraction) := keptDigits raw.toList
  match Decimal.Bounded.ofDigits? whole fraction with
  | some d => .ok d
  | none => .error (.unparseable "decimal" raw)

/-- A price in whole cents, the rest cut off. -/
def cents (raw : String) : Except TermError Int := do
  let amount ← decimal raw
  match amount.hundredfold? with
  | none => .error .overflow
  | some n =>
    match Text.fit64? n with
    | some n => .ok n
    | none => .error (.unparseable "price" raw)

/-- `1`, `true` and `yes` in any case are true, all else is false. -/
def boolean (raw : String) : Bool :=
  let word := Text.lower (Text.trim raw)
  word = "1" || word = "true" || word = "yes"

/-- The runs of decimal digits of any script. -/
def digitRuns (raw : String) : List (List Char) := Text.runs Text.isDigit raw.toList

/-- The first run of digits, within a signed word of 32 bits. -/
def year (raw : String) : Except TermError Int :=
  match (digitRuns raw).head?.bind Text.nat? with
  | some n => if n < 2147483648 then .ok n else .error (.unparseable "year" raw)
  | none => .error (.unparseable "year" raw)

end TableView.Term
