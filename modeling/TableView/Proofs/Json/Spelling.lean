import TableView.Proofs.Json.Text

/-! What the text of a value tells: all of the value, its numbers as they are spelled. -/
namespace TableView.Json

/-- A value with its numbers spelled out; the three words are spelled as well. -/
inductive Spelled
  | word (text : List Char)
  | str (s : String)
  | arr (items : List Spelled)
  | obj (fields : List (String × Spelled))

mutual

def spelled : Json → Spelled
  | null => .word ['n', 'u', 'l', 'l']
  | bool true => .word ['t', 'r', 'u', 'e']
  | bool false => .word ['f', 'a', 'l', 's', 'e']
  | num n => .word n.chars
  | str s => .str s
  | arr items => .arr (spelledItems items)
  | obj fields => .obj (spelledFields fields)

def spelledItems : List Json → List Spelled
  | [] => []
  | j :: rest => spelled j :: spelledItems rest

def spelledFields : List (String × Json) → List (String × Spelled)
  | [] => []
  | (key, j) :: rest => (key, spelled j) :: spelledFields rest

end

section Heads
open Decimal (Layout)
variable {j k : Json}

theorem layout_digits_ne_nil (d : Decimal.Digits) : Number.layout.digits d ≠ [] := by
  have hdigits : Nat.toDigits 10 d.digits ≠ [] := Nat.toDigits_ne_nil
  simp only [Layout.digits, Number.layout]
  split
  · simp only [Layout.positional]
    split
    · simp [hdigits]
    · split <;> simp
  · simp [Layout.scientific]

theorem layout_magnitude_ne_nil (bits : UInt64) : Number.layout.magnitude bits ≠ [] := by
  simp only [Layout.magnitude]
  split
  · decide
  · split
    · simp
    · exact layout_digits_ne_nil _

theorem Number.chars_ne_nil (n : Number) : n.chars ≠ [] := by
  cases n with
  | int n =>
    cases n with
    | ofNat n => simp [Number.chars, toString, Int.repr, Nat.toDigits_ne_nil]
    | negSucc n => simp [Number.chars, toString, Int.repr]
  | float x =>
    simp only [Number.chars, Layout.text]
    split
    · decide
    · simp [layout_magnitude_ne_nil]

theorem chars_ne_nil (j : Json) : chars j ≠ [] := by
  cases j with
  | num n => exact n.chars_ne_nil
  | bool b => cases b <;> simp [chars]
  | null | str _ | arr _ | obj _ => simp [chars, quotedChars]

theorem not_isPlain_mark {c : Char} {cs : List Char} (hc : Place.isPlain c = false) :
    ¬Place.IsPlain (c :: cs) := by
  intro h
  rw [h c List.mem_cons_self] at hc
  cases hc

theorem spelled_of_isPlain (h : Place.IsPlain (chars j)) : spelled j = .word (chars j) := by
  cases j with
  | null | num _ => rfl
  | bool b => cases b <;> rfl
  | str _ | arr _ | obj _ => exact absurd h (not_isPlain_mark rfl)

theorem spelled_of_word (hplain : Place.IsPlain (chars j)) (h : chars j = chars k) :
    spelled j = spelled k := by
  rw [spelled_of_isPlain hplain, spelled_of_isPlain (h ▸ hplain), h]

/-- Numbers and the three words are spelled with plain characters. -/
theorem isPlain_or_marked (j : Json) : Place.IsPlain (chars j) ∨ (∃ s, j = .str s) ∨
    (∃ items, j = .arr items) ∨ ∃ fields, j = .obj fields := by
  cases j with
  | null => exact Or.inl (by decide)
  | bool b => cases b <;> exact Or.inl (by decide)
  | num n => exact Or.inl (Place.isPlain_number n)
  | str s => exact Or.inr (Or.inl ⟨s, rfl⟩)
  | arr items => exact Or.inr (Or.inr (Or.inl ⟨items, rfl⟩))
  | obj fields => exact Or.inr (Or.inr (Or.inr ⟨fields, rfl⟩))

end Heads

/-- Lists that both go on, or both end, go on with the same text. -/
theorem eq_of_restChars {α : Type} {text : List α → List Char} {as bs : List α}
    (h : restChars text as = restChars text bs) : text as = text bs ∧ (as = [] ↔ bs = []) := by
  cases as <;> cases bs <;> simp_all [restChars]

mutual

theorem spelled_of_chars : ∀ j k : Json, chars j = chars k → spelled j = spelled k
  | .str s, k, h => by
    obtain hplain | ⟨t, rfl⟩ | ⟨items, rfl⟩ | ⟨fields, rfl⟩ := isPlain_or_marked k
    · exact absurd (h ▸ hplain) (not_isPlain_mark rfl)
    · rw [quotedChars_inj h]
    · simp [chars, quotedChars] at h
    · simp [chars, quotedChars] at h
  | .arr items, k, h => by
    obtain hplain | ⟨t, rfl⟩ | ⟨others, rfl⟩ | ⟨fields, rfl⟩ := isPlain_or_marked k
    · exact absurd (h ▸ hplain) (not_isPlain_mark rfl)
    · simp [chars, quotedChars] at h
    · have hitems : itemChars items = itemChars others := by simpa [chars] using h
      rw [spelled, spelled, spelledItems_of_itemChars items others hitems]
    · simp [chars] at h
  | .obj fields, k, h => by
    obtain hplain | ⟨t, rfl⟩ | ⟨items, rfl⟩ | ⟨others, rfl⟩ := isPlain_or_marked k
    · exact absurd (h ▸ hplain) (not_isPlain_mark rfl)
    · simp [chars, quotedChars] at h
    · simp [chars] at h
    · have hfields : fieldChars fields = fieldChars others := by simpa [chars] using h
      rw [spelled, spelled, spelledFields_of_fieldChars fields others hfields]
  | .null, k, h => spelled_of_word (j := .null) (by decide) h
  | .bool true, k, h => spelled_of_word (j := .bool true) (by decide) h
  | .bool false, k, h => spelled_of_word (j := .bool false) (by decide) h
  | .num n, k, h => spelled_of_word (j := .num n) (Place.isPlain_number n) h

theorem spelledItems_of_itemChars : ∀ items others : List Json,
    itemChars items = itemChars others → spelledItems items = spelledItems others
  | [], [], _ => rfl
  | [], k :: others, h => by simp [itemChars_cons, itemChars, chars_ne_nil] at h
  | j :: items, [], h => by simp [itemChars_cons, itemChars, chars_ne_nil] at h
  | j :: items, k :: others, h => by
    rw [itemChars_cons, itemChars_cons] at h
    obtain ⟨hfirst, hrest⟩ := chars_append_inj (follows_restChars _ _) (follows_restChars _ _) h
    rw [spelledItems, spelledItems, spelled_of_chars j k hfirst,
      spelledItems_of_itemChars items others (eq_of_restChars hrest).1]

theorem spelledFields_of_fieldChars : ∀ fields others : List (String × Json),
    fieldChars fields = fieldChars others → spelledFields fields = spelledFields others
  | [], [], _ => rfl
  | [], (key, k) :: others, h => by simp [fieldChars_cons, fieldChars, quotedChars] at h
  | (key, j) :: fields, [], h => by simp [fieldChars_cons, fieldChars, quotedChars] at h
  | (key, j) :: fields, (key', k) :: others, h => by
    rw [fieldChars_cons, fieldChars_cons] at h
    obtain ⟨hkey, h⟩ := chars_append_inj (j := .str key) (k := .str key') (follows_cons rfl)
      (follows_cons rfl) h
    obtain ⟨hfirst, hrest⟩ := chars_append_inj (follows_restChars _ _) (follows_restChars _ _)
      (List.cons.inj h).2
    rw [spelledFields, spelledFields, quotedChars_inj hkey, spelled_of_chars j k hfirst,
      spelledFields_of_fieldChars fields others (eq_of_restChars hrest).1]

end

mutual

def Spelled.chars : Spelled → List Char
  | .word text => text
  | .str s => quotedChars s
  | .arr items => '[' :: Spelled.itemChars items ++ [']']
  | .obj fields => '\x7b' :: Spelled.fieldChars fields ++ ['\x7d']

def Spelled.itemChars : List Spelled → List Char
  | [] => []
  | [j] => Spelled.chars j
  | j :: rest => Spelled.chars j ++ ',' :: Spelled.itemChars rest

def Spelled.fieldChars : List (String × Spelled) → List Char
  | [] => []
  | [(key, j)] => quotedChars key ++ ':' :: Spelled.chars j
  | (key, j) :: rest => quotedChars key ++ ':' :: Spelled.chars j ++ ',' :: Spelled.fieldChars rest

end

mutual

theorem chars_spelled : ∀ j : Json, (spelled j).chars = chars j
  | .null | .bool true | .bool false | .num _ | .str _ => rfl
  | .arr items => by rw [spelled, Spelled.chars, itemChars_spelled items, chars]
  | .obj fields => by rw [spelled, Spelled.chars, fieldChars_spelled fields, chars]

theorem itemChars_spelled : ∀ items : List Json,
    Spelled.itemChars (spelledItems items) = itemChars items
  | [] => rfl
  | [j] => chars_spelled j
  | j :: k :: rest => by
    show Spelled.chars (spelled j) ++ ',' :: Spelled.itemChars (spelledItems (k :: rest)) = _
    rw [chars_spelled j, itemChars_spelled (k :: rest)]
    rfl

theorem fieldChars_spelled : ∀ fields : List (String × Json),
    Spelled.fieldChars (spelledFields fields) = fieldChars fields
  | [] => rfl
  | [(key, j)] => by
    show quotedChars key ++ ':' :: Spelled.chars (spelled j) = _
    rw [chars_spelled j, fieldChars]
  | (key, j) :: (key', k) :: rest => by
    show quotedChars key ++ ':' :: Spelled.chars (spelled j) ++
      ',' :: Spelled.fieldChars (spelledFields ((key', k) :: rest)) = _
    rw [chars_spelled j, fieldChars_spelled ((key', k) :: rest)]
    rfl

end

/-- Values have the same text just when they are the same but for numbers of the same spelling. -/
theorem chars_eq_iff {j k : Json} : chars j = chars k ↔ spelled j = spelled k :=
  ⟨spelled_of_chars j k, fun h => by rw [← chars_spelled j, ← chars_spelled k, h]⟩

end TableView.Json
