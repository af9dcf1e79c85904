import TableView.Text.Hex

/-! The SHA-256 digest. -/
namespace TableView.Digest

def sha256Start : List UInt32 := [
  0x6a09e667, 0xbb67ae85, 0x3c6ef372, 0xa54ff53a, 0x510e527f, 0x9b05688c, 0x1f83d9ab, 0x5be0cd19]

def sha256Rounds : List UInt32 := [
  0x428a2f98, 0x71374491, 0xb5c0fbcf, 0xe9b5dba5, 0x3956c25b, 0x59f111f1, 0x923f82a4, 0xab1c5ed5,
  0xd807aa98, 0x12835b01, 0x243185be, 0x550c7dc3, 0x72be5d74, 0x80deb1fe, 0x9bdc06a7, 0xc19bf174,
  0xe49b69c1, 0xefbe4786, 0x0fc19dc6, 0x240ca1cc, 0x2de92c6f, 0x4a7484aa, 0x5cb0a9dc, 0x76f988da,
  0x983e5152, 0xa831c66d, 0xb00327c8, 0xbf597fc7, 0xc6e00bf3, 0xd5a79147, 0x06ca6351, 0x14292967,
  0x27b70a85, 0x2e1b2138, 0x4d2c6dfc, 0x53380d13, 0x650a7354, 0x766a0abb, 0x81c2c92e, 0x92722c85,
  0xa2bfe8a1, 0xa81a664b, 0xc24b8b70, 0xc76c51a3, 0xd192e819, 0xd6990624, 0xf40e3585, 0x106aa070,
  0x19a4c116, 0x1e376c08, 0x2748774c, 0x34b0bcb5, 0x391c0cb3, 0x4ed8aa4a, 0x5b9cca4f, 0x682e6ff3,
  0x748f82ee, 0x78a5636f, 0x84c87814, 0x8cc70208, 0x90befffa, 0xa4506ceb, 0xbef9a3f7, 0xc67178f2]

def rotate (x : UInt32) (n : UInt32) : UInt32 := (x >>> n) ||| (x <<< (32 - n))

/-- The message, a one bit, zeros, and the length in bits, in whole blocks of 64 bytes. -/
def padMessage (bytes : List UInt8) : List UInt8 :=
  let zeros := (119 - bytes.length % 64) % 64
  let bits := bytes.length * 8
  bytes ++ 0x80 :: List.replicate zeros 0 ++
    (List.range 8).map fun i => UInt8.ofNat (bits / Nat.pow 256 (7 - i))

def wordsOf : List UInt8 → List UInt32
  | a :: b :: c :: d :: rest =>
    ((a.toUInt32 <<< 24) ||| (b.toUInt32 <<< 16) ||| (c.toUInt32 <<< 8) ||| d.toUInt32) ::
      wordsOf rest
  | _ => []

/-- Sixteen words at a time. -/
def blocksOf : Nat → List UInt32 → List (List UInt32)
  | 0, _ => []
  | _, [] => []
  | fuel + 1, ws => ws.take 16 :: blocksOf fuel (ws.drop 16)

/-- Runs the rounds over a sliding window of the last sixteen schedule words. -/
def sha256Compress (state : List UInt32) (block : List UInt32) : List UInt32 :=
  let step := fun (s : List UInt32 × List UInt32) (k : UInt32) =>
    match s with
    | ([a, b, c, d, e, f, g, h], w :: window) =>
      let s1 := rotate e 6 ^^^ rotate e 11 ^^^ rotate e 25
      let choice := (e &&& f) ^^^ (~~~e &&& g)
      let t1 := h + s1 + choice + k + w
      let s0 := rotate a 2 ^^^ rotate a 13 ^^^ rotate a 22
      let majority := (a &&& b) ^^^ (a &&& c) ^^^ (b &&& c)
      let w1 := window.getD 0 0
      let w14 := window.getD 13 0
      let m0 := rotate w1 7 ^^^ rotate w1 18 ^^^ (w1 >>> 3)
      let m1 := rotate w14 17 ^^^ rotate w14 19 ^^^ (w14 >>> 10)
      let next := w + m0 + window.getD 8 0 + m1
      ([t1 + (s0 + majority), a, b, c, d + t1, e, f, g], window ++ [next])
    | s => s
  List.zipWith (· + ·) state (sha256Rounds.foldl step (state, block)).1

def wordBytes (w : UInt32) : List UInt8 :=
  [(w >>> 24).toUInt8, (w >>> 16).toUInt8, (w >>> 8).toUInt8, w.toUInt8]

def sha256 (bytes : List UInt8) : List UInt8 :=
  let ws := wordsOf (padMessage bytes)
  ((blocksOf ws.length ws).foldl sha256Compress sha256Start).flatMap wordBytes

/-- The digest of a text's UTF-8 bytes in hexadecimal. -/
def sha256Hex (s : String) : String := Text.hex (sha256 s.toUTF8.toList)

end TableView.Digest
