/-! The fewest decimal digits that read back as a given binary fraction. -/
namespace TableView.Decimal

/-- The positive number `mantissa * 2 ^ exponent`; `narrow` says that the next smaller number of
the format lies at half the usual distance. -/
structure Binary where
  mantissa : Nat
  exponent : Int
  narrow : Bool := false

/-- The number `digits * 10 ^ exponent`. -/
structure Digits where
  digits : Nat
  exponent : Int
deriving DecidableEq, Repr

/-- Which neighbour stands for a value half way between two of equal length. -/
inductive Tie | toEven | up
deriving DecidableEq, Repr

namespace Binary

/-- Decodes the bits of a positive finite double. -/
def ofBits (bits : UInt64) : Binary :=
  let fraction : Nat := bits.toNat % Nat.pow 2 52
  let level : Nat := bits.toNat / Nat.pow 2 52 % 2048
  if level = 0 then { mantissa := fraction, exponent := -1074 }
  else {
    mantissa := Nat.pow 2 52 + fraction
    exponent := (level : Int) - 1075
    narrow := fraction = 0 && level != 1 }

/-- Numerator of a quarter unit of the last place over `10 ^ e`. -/
def quarterNum (b : Binary) (e : Int) : Nat :=
  Nat.pow 2 (b.exponent - 2).toNat * Nat.pow 10 (-e).toNat

/-- Denominator of a quarter unit of the last place over `10 ^ e`. -/
def quarterDen (b : Binary) (e : Int) : Nat :=
  Nat.pow 2 (2 - b.exponent).toNat * Nat.pow 10 e.toNat

/-- Whether `d * 10 ^ e` rounds to the number: the ends of the interval do for an even mantissa. -/
def readsBack (b : Binary) (d : Nat) (e : Int) : Bool :=
  let low := (4 * b.mantissa - if b.narrow then 1 else 2) * b.quarterNum e
  let high := (4 * b.mantissa + 2) * b.quarterNum e
  let here := d * b.quarterDen e
  if b.mantissa % 2 = 0 then low ≤ here && here ≤ high else low < here && here < high

/-- The two multiples of `10 ^ e` around the number, less `10 ^ e`, and which of them is nearer. -/
def neighbours (b : Binary) (e : Int) : Nat × Nat × Ordering :=
  let num := 4 * b.mantissa * b.quarterNum e
  let den := b.quarterDen e
  let below := num / den
  (below, below + 1, compare (2 * (num - below * den)) den)

/-- The digits on the grid of step `10 ^ e`, if one of the two neighbours reads back. -/
def onGrid (b : Binary) (tie : Tie) (e : Int) : Option Digits :=
  let (below, above, side) := b.neighbours e
  let nearer := match side, tie with
    | .lt, _ => below
    | .gt, _ => above
    | .eq, .up => above
    | .eq, .toEven => if below % 2 = 0 then below else above
  let other := if nearer = below then above else below
  if b.readsBack nearer e then some ⟨nearer, e⟩
  else if b.readsBack other e then some ⟨other, e⟩
  else none

/-- Whether the number is at least `10 ^ k`. -/
def atLeast (b : Binary) (k : Int) : Bool := b.quarterDen k ≤ 4 * b.mantissa * b.quarterNum k

/-- The power of ten with `10 ^ k ≤ b < 10 ^ (k + 1)`, looked for near the binary magnitude. -/
def magnitude (b : Binary) : Int :=
  let guess := ((b.mantissa.log2 : Int) + b.exponent) * 30103 / 100000
  if b.atLeast (guess + 1) then guess + 1 else if b.atLeast guess then guess else guess - 1

/-- The shortest digits that read back, the nearest of those; seventeen always suffice. -/
def shortest (b : Binary) (tie : Tie) : Digits :=
  let top := b.magnitude
  ((List.range 18).findSome? fun (n : Nat) => b.onGrid tie (top - (n : Int))).getD ⟨0, 0⟩

end Binary

/-- Trailing zeros move into the exponent. -/
def Digits.normalize (d : Digits) : Digits := go d.digits d.digits d.exponent
where
  go : Nat → Nat → Int → Digits
    | 0, d, e => ⟨d, e⟩
    | fuel + 1, d, e => if d % 10 = 0 ∧ d ≠ 0 then go fuel (d / 10) (e + 1) else ⟨d, e⟩

end TableView.Decimal
