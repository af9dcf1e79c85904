import TableView.Json.Basic
import TableView.Text.Integer

/-! Reading domain values from JSON. -/
namespace TableView.Json

def bool? : Json → Option Bool
  | bool b => some b
  | _ => none

/-- A whole number of 64 bits, written without point or exponent. -/
def int64? : Json → Option Int
  | num (.int n) => Text.fit64? n
  | _ => none

def uint32? (j : Json) : Option UInt32 := do
  let n ← j.nat?
  if n < 4294967296 then some (UInt32.ofNat n) else none

def listOf? {α : Type} (decode : Json → Option α) : Json → Option (List α)
  | arr items => items.mapM decode
  | _ => none

def mapOf? {α : Type} (decode : Json → Option α) : Json → Option (Fields α)
  | obj fields => fields.mapM fun (k, j) => (decode j).map fun v => (k, v)
  | _ => none

/-- One of some words, or an object with that word as its only key over null. -/
def word? {α : Type} (words : List (String × α)) : Json → Option α
  | str s => Fields.get? words s
  | obj [(s, null)] => Fields.get? words s
  | _ => none

/-- A word inside a tagged value; there the object may stand over an empty object too. -/
def innerWord? {α : Type} (words : List (String × α)) : Json → Option α
  | obj [(s, obj [])] => Fields.get? words s
  | j => word? words j

/-- The members of a structure, which is an object or lists its members in order. -/
def members? (names : List String) : Json → Option (Fields Json)
  | obj fields => some fields
  | arr items => if items.length ≤ names.length then some (names.zip items) else none
  | _ => none

/-- The case that a tagged value names, and its members without the tag. -/
def tagged? (tag : String) : Json → Option (String × Json)
  | obj fields => do
    let name ← (← Fields.get? fields tag).string?
    return (name, obj (Fields.erase fields tag))
  | arr (str name :: rest) => some (name, arr rest)
  | _ => none

section
variable {α : Type} (ms : Fields Json) (key : String) (decode : Json → Option α)

def required? : Option α := (ms.get? key).bind decode

/-- An absent member takes the default; null is not absent. -/
def defaulted? (default : α) : Option α :=
  match ms.get? key with
  | none => some default
  | some j => decode j

/-- An absent member and null are both nothing. -/
def optional? : Option (Option α) :=
  match ms.get? key with
  | none | some null => some none
  | some j => (decode j).map some

end

/-- Null for nothing. -/
def ofOption {α : Type} (encode : α → Json) : Option α → Json
  | none => null
  | some a => encode a

end TableView.Json
