import TableView.Json.Basic
import TableView.Text.Hex
import TableView.Text.Integer

/-! Reading JSON text: characters to tokens, tokens to a value. -/
namespace TableView.Json

inductive Token
  | openList | closeList | openObject | closeObject | colon | comma
  | text (s : String)
  | other (j : Json)

namespace Token

def isSpace (c : Char) : Bool := c = ' ' || c = '\n' || c = '\t' || c = '\r'

/-- The sixteen bit unit spelled by four hexadecimal digits. -/
def unit? (a b c d : Char) : Option Nat :=
  [a, b, c, d].foldlM (fun n c => (Text.hexDigit? c).map (n * 16 + ·)) 0

def escaped? : Char → Option Char
  | '"' => some '"'
  | '\\' => some '\\'
  | '/' => some '/'
  | 'b' => some '\x08'
  | 'f' => some '\x0c'
  | 'n' => some '\n'
  | 'r' => some '\r'
  | 't' => some '\t'
  | _ => none

/-- The rest of a string after its opening quote, with what was read before in reverse. -/
def string? (acc : List Char) : List Char → Option (String × List Char)
  | '"' :: rest => some (String.ofList acc.reverse, rest)
  | '\\' :: 'u' :: a :: b :: c :: d :: rest => do
    let high ← unit? a b c d
    if 0xD800 ≤ high ∧ high < 0xDC00 then
      match rest with
      | '\\' :: 'u' :: a :: b :: c :: d :: rest =>
        let low ← unit? a b c d
        if 0xDC00 ≤ low ∧ low < 0xE000 then
          string? (Char.ofNat (0x10000 + (high - 0xD800) * 0x400 + (low - 0xDC00)) :: acc) rest
        else none
      | _ => none
    else if 0xDC00 ≤ high ∧ high < 0xE000 then none
    else string? (Char.ofNat high :: acc) rest
  | '\\' :: c :: rest => do string? ((← escaped? c) :: acc) rest
  | c :: rest => if c.toNat < 32 ∨ c = '\\' then none else string? (c :: acc) rest
  | [] => none

/-- A run of at least one digit. -/
def digits? (cs : List Char) : Option (List Char × List Char) :=
  match cs.span Char.isDigit with
  | ([], _) => none
  | run => some run

/-- An optional point with digits. -/
def fraction? : List Char → Option (Option (List Char) × List Char)
  | '.' :: rest => (digits? rest).map fun (ds, rest) => (some ds, rest)
  | rest => some (none, rest)

/-- An optional power of ten, with or without a sign. -/
def power? : List Char → Option (Option Int × List Char)
  | c :: rest =>
    if c = 'e' ∨ c = 'E' then
      let sign : Int := if rest.head? = some '-' then -1 else 1
      let rest := if rest.head? = some '-' ∨ rest.head? = some '+' then rest.drop 1 else rest
      (digits? rest).map fun (ds, rest) => (some (sign * Text.digitsValue ds), rest)
    else some (none, c :: rest)
  | [] => some (none, [])

/-- Reads digits on to a number as long as it fits 64 bits, and gives the digits left over. -/
def readOn (m : Nat) : List Char → Nat × List Char
  | [] => (m, [])
  | d :: ds =>
    let n : Nat := m * 10 + Text.digitValue d
    if (n : Int) ≤ Text.maxUInt64 then readOn n ds else (m, d :: ds)

/-- A double times a power of ten, by one product or quotient with the double of the power; powers
below all doubles are taken in steps. None is beyond all doubles. -/
def scaleBy (x : Float) (e : Int) : Option Float :=
  if -308 ≤ e ∧ e ≤ 308 then
    let power := Float.ofScientific 1 false e.natAbs
    let y := if 0 ≤ e then x * power else x / power
    if y.isInf then none else some y
  else if x == 0 then some x
  else if 0 ≤ e then none
  else scaleBy (x / Float.ofScientific 1 false 308) (e + 308)
termination_by e.natAbs
decreasing_by omega

/-- Digits without a zero ahead of others, then an optional fraction and an optional power. Of the
digits of a double only those count that fit 64 bits together. -/
def number? (negative : Bool) (cs : List Char) : Option (Number × List Char) := do
  let (whole, rest) ← digits? cs
  if whole.length > 1 ∧ whole.head? = some '0' then none
  let (fraction, rest) ← fraction? rest
  let (power, rest) ← power? rest
  let (size, excess) := readOn 0 whole
  let n : Int := if negative then -size else size
  let exact := excess.isEmpty ∧ Text.minInt64 ≤ n ∧ ¬ (negative ∧ size = 0)
  if fraction.isNone ∧ power.isNone ∧ exact then return (.int n, rest)
  let ds := fraction.getD []
  let (size, left) := readOn size ds
  let e := power.getD 0 + excess.length - (ds.length - left.length)
  let x ← scaleBy (Float.ofNat size) e
  return (.float (if negative then -x else x), rest)

/-- The first token, in text that does not start with a blank. -/
def next? : List Char → Option (Token × List Char)
  | '[' :: rest => some (openList, rest)
  | ']' :: rest => some (closeList, rest)
  | '\x7b' :: rest => some (openObject, rest)
  | '\x7d' :: rest => some (closeObject, rest)
  | ':' :: rest => some (colon, rest)
  | ',' :: rest => some (comma, rest)
  | '"' :: rest => (string? [] rest).map fun (s, rest) => (text s, rest)
  | 'n' :: 'u' :: 'l' :: 'l' :: rest => some (other null, rest)
  | 't' :: 'r' :: 'u' :: 'e' :: rest => some (other (bool true), rest)
  | 'f' :: 'a' :: 'l' :: 's' :: 'e' :: rest => some (other (bool false), rest)
  | '-' :: rest => (number? true rest).map fun (n, rest) => (other (num n), rest)
  | rest => (number? false rest).map fun (n, rest) => (other (num n), rest)

def scanWith : Nat → List Char → Option (List Token)
  | 0, _ => none
  | fuel + 1, cs =>
    match cs.dropWhile isSpace with
    | [] => some []
    | cs => do
      let (t, rest) ← next? cs
      return t :: (← scanWith fuel rest)

/-- All tokens of a text; each takes at least one character. -/
def scan (cs : List Char) : Option (List Token) := scanWith (cs.length + 1) cs

end Token

mutual

def value? : Nat → List Token → Option (Json × List Token)
  | 0, _ => none
  | _ + 1, .text s :: rest => some (str s, rest)
  | _ + 1, .other j :: rest => some (j, rest)
  | _ + 1, .openList :: .closeList :: rest => some (arr [], rest)
  | fuel + 1, .openList :: rest => (listRest? fuel rest).map fun (js, rest) => (arr js, rest)
  | _ + 1, .openObject :: .closeObject :: rest => some (obj [], rest)
  | fuel + 1, .openObject :: rest =>
    (objectRest? fuel rest).map fun (fs, rest) => (ofFields fs, rest)
  | _ + 1, _ => none

/-- Items up to and with the closing bracket. -/
def listRest? : Nat → List Token → Option (List Json × List Token)
  | 0, _ => none
  | fuel + 1, ts =>
    match value? fuel ts with
    | some (j, .closeList :: rest) => some ([j], rest)
    | some (j, .comma :: rest) => (listRest? fuel rest).map fun (js, rest) => (j :: js, rest)
    | _ => none

/-- Fields up to and with the closing brace. -/
def objectRest? : Nat → List Token → Option (List (String × Json) × List Token)
  | 0, _ => none
  | fuel + 1, .text k :: .colon :: ts =>
    match value? fuel ts with
    | some (j, .closeObject :: rest) => some ([(k, j)], rest)
    | some (j, .comma :: rest) => (objectRest? fuel rest).map fun (fs, rest) => ((k, j) :: fs, rest)
    | _ => none
  | _ + 1, _ => none

end

/-- The value that a text spells, if it spells exactly one. -/
def parse? (s : String) : Option Json := do
  let ts ← Token.scan s.toList
  match value? (ts.length + 1) ts with
  | some (j, []) => some j
  | _ => none

end TableView.Json
