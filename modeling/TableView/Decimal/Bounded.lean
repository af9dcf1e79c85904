import TableView.Text.Integer

/-! Decimal numbers with a mantissa of 96 bits and at most 28 fraction digits. -/
namespace TableView.Decimal

/-- Mantissas lie below this, which is `2 ^ 96`. -/
def capacity : Nat := 79228162514264337593543950336

def maxScale : Nat := 28

/-- The number `mantissa / 10 ^ scale`, below zero when `negative`. -/
structure Bounded where
  mantissa : Nat
  scale : Nat
  negative : Bool := false
deriving DecidableEq, Repr

namespace Bounded

def zero : Bounded := ⟨0, 0, false⟩

/-- Digits before the point; none when they do not fit. -/
def readWhole (m : Nat) : List Char → Option Nat
  | [] => some m
  | d :: ds =>
    let m := m * 10 + Text.digitValue d
    if m < capacity then readWhole m ds else none

/-- Rounds by the first digit that does not fit, a five upwards; a carry past the mantissa costs one
fraction digit. -/
def roundBy (d m scale : Nat) : Option Bounded :=
  let m := if 5 ≤ d then m + 1 else m
  if m < capacity then some { mantissa := m, scale }
  else if scale = 0 then none
  else some { mantissa := (m + 4) / 10, scale := scale - 1 }

/-- A mantissa below this is short: with one more digit it stays well within 64 bits. -/
def shortCapacity : Nat := 1844674407370954906

/-- Digits after the point, as many as fit, and underscores; what follows the digit that rounds them
is not read. An underscore in that digit's place ends the number unless the mantissa was no longer
short before its last digit. -/
def readFraction (m scale : Nat) : List Char → Option Bounded
  | [] => some { mantissa := m, scale }
  | d :: ds =>
    if d = '_' then
      if scale < maxScale ∨ shortCapacity ≤ m / 10 then readFraction m scale ds
      else some { mantissa := m, scale }
    else if !d.isDigit then none
    else if scale < maxScale ∧ m * 10 + Text.digitValue d < capacity then
      readFraction (m * 10 + Text.digitValue d) (scale + 1) ds
    else roundBy (Text.digitValue d) m scale

/-- Reads digits with a fraction. -/
def ofDigits? (whole fraction : List Char) : Option Bounded := do
  readFraction (← readWhole 0 whole) 0 fraction

/-- An optional sign and digits, of which a point may come before, between or after; underscores
after the first digit do not count. -/
def readPlain? (cs : List Char) : Option Bounded := do
  let negative := cs.head? = some '-'
  let cs := if negative || cs.head? = some '+' then cs.drop 1 else cs
  let (whole, rest) := cs.span (fun c => c != '.')
  let fraction := rest.drop 1
  if !(whole ++ fraction).head?.any Char.isDigit then none
  let whole := whole.filter (fun c => c != '_')
  if !whole.all Char.isDigit then none
  let b ← ofDigits? whole fraction
  return { b with negative := negative && b.mantissa != 0 }

/-- Fewer fraction digits; the last digit that is cut rounds, a five upwards. -/
def cutTo (scale : Nat) (b : Bounded) : Bounded :=
  let cut := b.mantissa * 10 / Nat.pow 10 (b.scale - scale)
  { b with mantissa := if 5 ≤ cut % 10 then cut / 10 + 1 else cut / 10, scale }

/-- The number over ten to the power `n`; digits past the last place are cut. -/
def shiftDown? (b : Bounded) (n : Nat) : Option Bounded :=
  if maxScale < n then none
  else
    let b := if maxScale < b.scale + n then b.cutTo (maxScale - n) else b
    some { b with scale := b.scale + n }

/-- The number times ten to the power `n`, without a fraction that it does not need. -/
def shiftUp? (b : Bounded) (n : Nat) : Option Bounded :=
  if n ≤ b.scale then some { b with scale := b.scale - n }
  else
    let mantissa := b.mantissa * Nat.pow 10 (n - b.scale)
    if n ≤ maxScale ∧ mantissa < capacity then some { b with mantissa, scale := 0 } else none

/-- Applies a power of ten, which is digits after an optional sign. -/
def readPower? (b : Bounded) : List Char → Option Bounded
  | '-' :: cs => do b.shiftDown? (← Text.nat? (if cs.head? = some '+' then cs.drop 1 else cs))
  | '+' :: cs => do b.shiftUp? (← Text.nat? cs)
  | cs => do b.shiftUp? (← Text.nat? cs)

/-- A number, plain or with a power of ten after an `e`. -/
def read? (cs : List Char) : Option Bounded := do
  let (plain, rest) := cs.span (fun c => c != 'e' && c != 'E')
  let b ← readPlain? plain
  match rest with
  | [] => return b
  | _ :: power => b.readPower? power

/-- All digits of the scale are written. -/
def chars (b : Bounded) : List Char :=
  let ds := Nat.toDigits 10 b.mantissa
  let ds := List.replicate (b.scale + 1 - ds.length) '0' ++ ds
  let whole := ds.take (ds.length - b.scale)
  let fraction := ds.drop (ds.length - b.scale)
  (if b.negative then ['-'] else []) ++ whole ++
    (if fraction.isEmpty then [] else '.' :: fraction)

def text (b : Bounded) : String := String.ofList b.chars

/-- A hundred times the number, cut to a whole; none where the product cannot be held. -/
def hundredfold? (b : Bounded) : Option Nat :=
  if b.mantissa * Nat.pow 10 (2 - b.scale) < capacity then
    some (b.mantissa * 100 / Nat.pow 10 b.scale)
  else none

/-- Ten to the power `n` by repeated squaring in doubles. -/
def floatPower (n : Nat) : Float := go 6 n 1 10
where
  go : Nat → Nat → Float → Float → Float
    | 0, _, r, _ => r
    | fuel + 1, n, r, b =>
      let r := if n % 2 = 1 then r * b else r
      if n / 2 = 0 then r else go fuel (n / 2) r (b * b)

/-- The double for the number: whole and fraction are converted apart and rounded to the scale. -/
def toFloat (b : Bounded) : Float :=
  let size :=
    if b.scale = 0 then Float.ofNat b.mantissa
    else
      let whole := Float.ofNat (b.mantissa / Nat.pow 10 b.scale)
      let f := Float.ofNat (b.mantissa % Nat.pow 10 b.scale) / Float.ofNat (Nat.pow 10 b.scale)
      if f == 0 then whole
      else
        let p := floatPower b.scale
        ((whole + f) * p).round / p
  if b.negative then -size else size

end Bounded
end TableView.Decimal
