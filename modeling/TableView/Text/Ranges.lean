/-! Sets of characters given by ranges of code points. -/
namespace TableView.Text

/-- First and last code point of each range, ascending. -/
abbrev Ranges := List (Nat × Nat)

def Ranges.has (rs : Ranges) (c : Char) : Bool :=
  rs.any fun r => r.1 ≤ c.toNat && c.toNat ≤ r.2

end TableView.Text
