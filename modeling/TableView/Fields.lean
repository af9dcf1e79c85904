/-! Maps with string keys, kept as lists in ascending key order. -/
namespace TableView

/-- Keys ascend by code point, which is also the order of their UTF-8 bytes. -/
abbrev Fields (α : Type) := List (String × α)

namespace Fields
variable {α β : Type}

/-- The value under a key; of equal keys the first counts. -/
def get? : Fields α → String → Option α
  | [], _ => none
  | (k, v) :: rest, key => if k = key then some v else get? rest key

def contains (fs : Fields α) (key : String) : Bool := (fs.get? key).isSome

/-- Puts a value under a key in its place, over what stood there. -/
def insert : Fields α → String → α → Fields α
  | [], key, v => [(key, v)]
  | (k, w) :: rest, key, v =>
    if key < k then (key, v) :: (k, w) :: rest
    else if k = key then (key, v) :: rest
    else (k, w) :: insert rest key v

def erase (fs : Fields α) (key : String) : Fields α := fs.filter (fun e => e.1 != key)

/-- Of equal keys the last one wins. -/
def ofList (entries : List (String × α)) : Fields α :=
  entries.foldl (fun fs e => fs.insert e.1 e.2) []

def keys (fs : Fields α) : List String := fs.map Prod.fst

@[simp] theorem get?_nil (key : String) : get? ([] : Fields α) key = none := rfl

@[simp] theorem get?_cons (k key : String) (v : α) (fs : Fields α) :
    get? ((k, v) :: fs) key = if k = key then some v else get? fs key := rfl

theorem get?_insert (fs : Fields α) (k key : String) (v : α) :
    (fs.insert k v).get? key = if k = key then some v else fs.get? key := by
  induction fs with
  | nil => rfl
  | cons e rest ih =>
    obtain ⟨j, w⟩ := e
    simp only [insert]
    split
    · rfl
    · split
      · next h => subst h; by_cases hk : j = key <;> simp [hk]
      · next h =>
        by_cases hk : j = key
        · have : k ≠ key := fun he => h (hk.trans he.symm)
          simp [hk, this]
        · simp [hk, ih]

theorem get?_erase (fs : Fields α) (k key : String) :
    (fs.erase k).get? key = if k = key then none else fs.get? key := by
  induction fs with
  | nil => simp [erase]
  | cons e rest ih =>
    obtain ⟨j, w⟩ := e
    simp only [erase] at ih
    by_cases hj : j = k
    · subst hj
      by_cases hk : j = key <;> simp_all [erase]
    · by_cases hk : j = key
      · subst hk
        simp [erase, hj, Ne.symm hj]
      · simp [erase, hj, hk, ih]

end Fields
end TableView
