/-! Reading bytes as UTF-8, with a replacement for what is no text. -/
namespace TableView.Text

def isTail (b : UInt8) : Bool := b.toNat / 64 = 2

/-- The number of bytes of a sequence by its first byte, and the range of the second. -/
def sequence? (b : UInt8) : Option (Nat × Nat × Nat) :=
  let n := b.toNat
  if n < 0xC2 then none
  else if n < 0xE0 then some (2, 0x80, 0xBF)
  else if n = 0xE0 then some (3, 0xA0, 0xBF)
  else if n = 0xED then some (3, 0x80, 0x9F)
  else if n < 0xF0 then some (3, 0x80, 0xBF)
  else if n = 0xF0 then some (4, 0x90, 0xBF)
  else if n < 0xF4 then some (4, 0x80, 0xBF)
  else if n = 0xF4 then some (4, 0x80, 0x8F)
  else none

/-- The longest start of the bytes that could go on as a sequence of the given length. -/
def prefixLength (size low high : Nat) : List UInt8 → Nat
  | b :: rest =>
    if low ≤ b.toNat ∧ b.toNat ≤ high then
      1 + (rest.takeWhile isTail |>.take (size - 2)).length
    else 0
  | [] => 0

def codePoint (size : Nat) (first : UInt8) (rest : List UInt8) : Nat :=
  rest.foldl (fun n b => n * 64 + b.toNat % 64) (first.toNat % Nat.pow 2 (7 - size))

def replacement : Char := Char.ofNat 0xFFFD

/-- Every maximal invalid part becomes one replacement character. -/
def decodeWith : Nat → List UInt8 → List Char
  | 0, _ => []
  | _ + 1, [] => []
  | fuel + 1, b :: rest =>
    if b.toNat < 0x80 then Char.ofNat b.toNat :: decodeWith fuel rest
    else
      match sequence? b with
      | none => replacement :: decodeWith fuel rest
      | some (size, low, high) =>
        let n := prefixLength size low high rest
        let c := if n = size - 1 then Char.ofNat (codePoint size b (rest.take n)) else replacement
        c :: decodeWith fuel (rest.drop n)

def decodeUtf8 (bytes : List UInt8) : String := String.ofList (decodeWith bytes.length bytes)

end TableView.Text
