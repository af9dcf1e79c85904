import TableView.Decimal.Shortest

/-! Decimal text of a double: shortest digits under a record of layout decisions. -/
namespace TableView.Decimal

structure Layout where
  tie : Tie
  /-- The powers of ten of the first digit that are written without an exponent; none: all. -/
  plain : Option (Int × Int)
  /-- Whole numbers keep a `.0`. -/
  keepPoint : Bool
  nan : String
  infinity : String

namespace Layout

def zeros (n : Nat) : List Char := List.replicate n '0'

/-- Digits with the decimal point in its place and no exponent. -/
def positional (l : Layout) (ds : List Char) (e : Int) : List Char :=
  let first := (ds.length : Int) + e
  if 0 ≤ e then ds ++ zeros e.toNat ++ (if l.keepPoint then ['.', '0'] else [])
  else if first ≤ 0 then ['0', '.'] ++ zeros (-first).toNat ++ ds
  else ds.take first.toNat ++ ['.'] ++ ds.drop first.toNat

/-- One digit, the others after a point, and the power of ten. -/
def scientific (ds : List Char) (e : Int) : List Char :=
  let power := (ds.length : Int) + e - 1
  let tail := ds.drop 1
  ds.take 1 ++ (if tail.isEmpty then [] else '.' :: tail) ++ 'e' :: (toString power).toList

def digits (l : Layout) (d : Digits) : List Char :=
  let ds := Nat.toDigits 10 d.digits
  let first := (ds.length : Int) + d.exponent - 1
  match l.plain with
  | none => l.positional ds d.exponent
  | some (low, high) =>
    if low ≤ first ∧ first ≤ high then l.positional ds d.exponent else scientific ds d.exponent

/-- The number without its sign, from its bits. -/
def magnitude (l : Layout) (bits : UInt64) : List Char :=
  let rest := bits.toNat % Nat.pow 2 63
  if 2047 * Nat.pow 2 52 ≤ rest then l.infinity.toList
  else if rest = 0 then '0' :: (if l.keepPoint then ['.', '0'] else [])
  else l.digits ((Binary.ofBits bits).shortest l.tie).normalize

def text (l : Layout) (x : Float) : String :=
  if x.isNaN then l.nan
  else
    let bits := x.toBits
    let sign := if Nat.pow 2 63 ≤ bits.toNat then ['-'] else []
    String.ofList (sign ++ l.magnitude bits)

end Layout
end TableView.Decimal
