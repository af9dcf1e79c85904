import TableView.Text.Ranges

/-! Blank characters (property White_Space), trimming and splitting. -/
namespace TableView.Text

def blankRanges : Ranges := [
  (0x9, 0xD), (0x20, 0x20), (0x85, 0x85), (0xA0, 0xA0), (0x1680, 0x1680), (0x2000, 0x200A),
  (0x2028, 0x2029), (0x202F, 0x202F), (0x205F, 0x205F), (0x3000, 0x3000)]

def isBlank (c : Char) : Bool := blankRanges.has c

/-- The characters without blanks at either end. -/
def trimmed (cs : List Char) : List Char :=
  ((cs.dropWhile isBlank).reverse.dropWhile isBlank).reverse

def trim (s : String) : String := String.ofList (trimmed s.toList)

/-- The parts between the characters that satisfy `p`: one more than there are of those. -/
def parts (p : Char → Bool) : List Char → List (List Char)
  | [] => [[]]
  | c :: rest =>
    if p c then [] :: parts p rest
    else
      match parts p rest with
      | [] => [[c]]
      | part :: others => (c :: part) :: others

/-- The maximal runs of characters that satisfy `p`. -/
def runs (p : Char → Bool) (cs : List Char) : List (List Char) :=
  (parts (fun c => !p c) cs).filter (fun run => !run.isEmpty)

/-- The maximal runs without a blank. -/
def words (cs : List Char) : List (List Char) := runs (fun c => !isBlank c) cs

theorem parts_ne_nil (p : Char → Bool) (cs : List Char) : parts p cs ≠ [] := by
  cases cs with
  | nil => simp [parts]
  | cons c rest =>
    simp only [parts]
    split
    · simp
    · split <;> simp

end TableView.Text
