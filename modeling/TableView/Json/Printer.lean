import TableView.Decimal.Layout
import TableView.Json.Basic

/-! Compact JSON text. -/
namespace TableView.Json

/-- Plain from 0.00001 to below 10^16, with a point or an exponent; JSON knows no infinity. -/
def Number.layout : Decimal.Layout where
  tie := .toEven
  plain := some (-5, 15)
  keepPoint := true
  nan := "null"
  infinity := "null"

def Number.chars : Number → List Char
  | .int n => (toString n).toList
  | .float x => (layout.text x).toList

/-- Quotes, backslashes and control characters are escaped, all else stands as it is. -/
def escapeChar (c : Char) : List Char :=
  match c with
  | '"' => ['\\', '"']
  | '\\' => ['\\', '\\']
  | '\n' => ['\\', 'n']
  | '\r' => ['\\', 'r']
  | '\t' => ['\\', 't']
  | '\x08' => ['\\', 'b']
  | '\x0c' => ['\\', 'f']
  | c =>
    if c.toNat < 32 then
      ['\\', 'u', '0', '0', Nat.digitChar (c.toNat / 16), Nat.digitChar (c.toNat % 16)]
    else [c]

def quotedChars (s : String) : List Char := '"' :: s.toList.flatMap escapeChar ++ ['"']

mutual

def chars : Json → List Char
  | null => ['n', 'u', 'l', 'l']
  | bool true => ['t', 'r', 'u', 'e']
  | bool false => ['f', 'a', 'l', 's', 'e']
  | num n => n.chars
  | str s => quotedChars s
  | arr items => '[' :: itemChars items ++ [']']
  | obj fields => '\x7b' :: fieldChars fields ++ ['\x7d']

def itemChars : List Json → List Char
  | [] => []
  | [j] => chars j
  | j :: rest => chars j ++ ',' :: itemChars rest

def fieldChars : List (String × Json) → List Char
  | [] => []
  | [(k, j)] => quotedChars k ++ ':' :: chars j
  | (k, j) :: rest => quotedChars k ++ ':' :: chars j ++ ',' :: fieldChars rest

end

/-- The text without blanks, fields in the order held. -/
def compact (j : Json) : String := String.ofList (chars j)

end TableView.Json
