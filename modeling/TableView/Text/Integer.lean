/-! Whole numbers spelled with the digits `0` to `9`. -/
namespace TableView.Text

/-- The value of a digit from `0` to `9`. -/
def digitValue (d : Char) : Nat := d.toNat - 48

/-- The value of a list of digits, the first the highest; none spell zero. -/
def digitsValue (ds : List Char) : Nat := ds.foldl (fun n d => n * 10 + digitValue d) 0

/-- The value of a text of digits alone, at least one. -/
def nat? (cs : List Char) : Option Nat :=
  if cs.isEmpty || !cs.all Char.isDigit then none else some (digitsValue cs)

def minInt64 : Int := -9223372036854775808

def maxInt64 : Int := 9223372036854775807

def maxUInt64 : Int := 18446744073709551615

/-- The number when it fits a signed word of 64 bits. -/
def fit64? (n : Int) : Option Int := if minInt64 ≤ n ∧ n ≤ maxInt64 then some n else none

/-- An optional sign and digits, within 64 bits. -/
def int64? : List Char → Option Int
  | '-' :: rest => do fit64? (-((← nat? rest) : Int))
  | '+' :: rest => do fit64? (← nat? rest)
  | cs => do fit64? (← nat? cs)

end TableView.Text
