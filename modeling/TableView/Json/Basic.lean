import TableView.Fields

/-! JSON values and the ways to look into them. -/
namespace TableView

/-- Numbers from `-2 ^ 63` to below `2 ^ 64` written without point and exponent are whole. -/
inductive Json.Number
  | int (n : Int)
  | float (x : Float)

/-- An object holds its fields in ascending key order, each key once. -/
inductive Json
  | null
  | bool (b : Bool)
  | num (n : Json.Number)
  | str (s : String)
  | arr (items : List Json)
  | obj (fields : List (String × Json))

namespace Json

instance : Inhabited Json := ⟨null⟩

def int (n : Int) : Json := num (.int n)

def nat (n : Nat) : Json := int n

def float (x : Float) : Json := num (.float x)

/-- The object with the given fields in any order. -/
def ofFields (fields : List (String × Json)) : Json := obj (Fields.ofList fields)

def get? : Json → String → Option Json
  | obj fields, key => Fields.get? fields key
  | _, _ => none

/-- The value under a key, null where there is none. -/
def getOrNull (j : Json) (key : String) : Json := (j.get? key).getD null

def items? : Json → Option (List Json)
  | arr items => some items
  | _ => none

def string? : Json → Option String
  | str s => some s
  | _ => none

/-- A whole number from 0 to below `2 ^ 64`. -/
def nat? : Json → Option Nat
  | num (.int (.ofNat n)) => some n
  | _ => none

/-- Any number, as a double. -/
def float? : Json → Option Float
  | num (.int n) => some (Float.ofInt n)
  | num (.float x) => some x
  | _ => none

end Json
end TableView
