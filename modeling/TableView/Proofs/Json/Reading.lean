import TableView.Json.Decode
import TableView.Proofs.Fields
import TableView.Proofs.Json.Text

/-! Reading the text of a value without numbers gives the value back. -/
namespace TableView.Json

/-- Values without numbers, whose objects hold their fields in the order of the keys. -/
inductive Wordy : Json → Prop
  | null : Wordy .null
  | bool (b : Bool) : Wordy (.bool b)
  | str (s : String) : Wordy (.str s)
  | arr {items : List Json} (hitems : ∀ j ∈ items, Wordy j) : Wordy (.arr items)
  | obj {fields : Fields Json} (hkeys : fields.Ascending) (hfields : ∀ e ∈ fields, Wordy e.2) :
    Wordy (.obj fields)

attribute [simp] Wordy.null Wordy.bool Wordy.str

theorem Wordy.ofOption {α : Type} {encode : α → Json} (h : ∀ a, Wordy (encode a)) (o : Option α) :
    Wordy (Json.ofOption encode o) := by
  cases o with
  | none => exact .null
  | some a => exact h a

mutual

/-- The tokens of a value's text. -/
def tokens : Json → List Token
  | arr items => .openList :: itemTokens items
  | obj fields => .openObject :: fieldTokens fields
  | str s => [.text s]
  | j => [.other j]

/-- Up to and with the closing bracket. -/
def itemTokens : List Json → List Token
  | [] => [.closeList]
  | [j] => tokens j ++ [.closeList]
  | j :: rest => tokens j ++ .comma :: itemTokens rest

/-- Up to and with the closing brace. -/
def fieldTokens : List (String × Json) → List Token
  | [] => [.closeObject]
  | [(key, j)] => .text key :: .colon :: (tokens j ++ [.closeObject])
  | (key, j) :: rest => .text key :: .colon :: (tokens j ++ .comma :: fieldTokens rest)

end

namespace Token
variable {cs rest : List Char} {t : Token} {ts : List Token}

/-- A text has these tokens, whatever more than its length there is of fuel. -/
def Scans (cs : List Char) (ts : List Token) : Prop :=
  ∀ fuel, cs.length < fuel → scanWith fuel cs = some ts

theorem scans_nil : Scans [] [] := by
  intro fuel hfuel
  cases fuel with
  | zero => simp at hfuel
  | succ fuel => rfl

theorem Scans.cons {c : Char} (hc : isSpace c = false) (hnext : next? (c :: cs) = some (t, rest))
    (hlength : rest.length ≤ cs.length) (h : Scans rest ts) : Scans (c :: cs) (t :: ts) := by
  intro fuel hfuel
  cases fuel with
  | zero => simp at hfuel
  | succ fuel =>
    have hrest : scanWith fuel rest = some ts := h fuel (by simp at hfuel; omega)
    simp only [scanWith, List.dropWhile_cons, hc, Bool.false_eq_true, if_false, hnext,
      Option.bind_eq_bind, Option.bind_some, hrest]
    rfl

theorem Scans.quotedChars (h : Scans rest ts) (s : String) :
    Scans (Json.quotedChars s ++ rest) (.text s :: ts) := by
  have hquoted : Json.quotedChars s ++ rest =
      '"' :: (s.toList.flatMap escapeChar ++ '"' :: rest) := by simp [Json.quotedChars]
  rw [hquoted]
  refine .cons rfl ?_ (by simp; omega) h
  rw [next?, string?_written]
  simp

end Token

open Token (Scans)

mutual

/-- A value's text has its tokens, whatever text follows with whatever tokens. -/
theorem scans_chars : ∀ {cs : List Char} {ts : List Token}, Scans cs ts → ∀ j, Wordy j →
    Scans (chars j ++ cs) (tokens j ++ ts)
  | _, _, h, .null, _ => .cons rfl rfl (by simp; omega) h
  | _, _, h, .bool true, _ => .cons rfl rfl (by simp; omega) h
  | _, _, h, .bool false, _ => .cons rfl rfl (by simp; omega) h
  | _, _, h, .str s, _ => h.quotedChars s
  | cs, ts, h, .arr items, .arr hitems => by
    have hitemChars := scans_itemChars h items hitems
    have hopen : Scans ('[' :: (itemChars items ++ ']' :: cs)) _ :=
      .cons rfl rfl (Nat.le_refl _) hitemChars
    simpa [chars, tokens] using hopen
  | cs, ts, h, .obj fields, .obj _ hfields => by
    have hfieldChars := scans_fieldChars h fields hfields
    have hopen : Scans ('\x7b' :: (fieldChars fields ++ '\x7d' :: cs)) _ :=
      .cons rfl rfl (Nat.le_refl _) hfieldChars
    simpa [chars, tokens] using hopen

theorem scans_itemChars : ∀ {cs : List Char} {ts : List Token}, Scans cs ts →
    ∀ items : List Json, (∀ j ∈ items, Wordy j) →
    Scans (itemChars items ++ ']' :: cs) (itemTokens items ++ ts)
  | _, _, h, [], _ => .cons rfl rfl (Nat.le_refl _) h
  | cs, ts, h, [j], hitems => by
    have hclose : Scans (']' :: cs) (.closeList :: ts) := .cons rfl rfl (Nat.le_refl _) h
    have hvalue := scans_chars hclose j (hitems j List.mem_cons_self)
    simpa [itemChars, itemTokens] using hvalue
  | cs, ts, h, j :: k :: items, hitems => by
    have hrest := scans_itemChars h (k :: items) fun i hi => hitems i (List.mem_cons_of_mem j hi)
    have hcomma : Scans (',' :: (itemChars (k :: items) ++ ']' :: cs)) _ :=
      .cons rfl rfl (Nat.le_refl _) hrest
    have hvalue := scans_chars hcomma j (hitems j List.mem_cons_self)
    simpa [itemChars, itemTokens] using hvalue

theorem scans_fieldChars : ∀ {cs : List Char} {ts : List Token}, Scans cs ts →
    ∀ fields : List (String × Json), (∀ e ∈ fields, Wordy e.2) →
    Scans (fieldChars fields ++ '\x7d' :: cs) (fieldTokens fields ++ ts)
  | _, _, h, [], _ => .cons rfl rfl (Nat.le_refl _) h
  | cs, ts, h, [(key, j)], hfields => by
    have hclose : Scans ('\x7d' :: cs) (.closeObject :: ts) := .cons rfl rfl (Nat.le_refl _) h
    have hvalue := scans_chars hclose j (hfields (key, j) List.mem_cons_self)
    have hcolon : Scans (':' :: (chars j ++ '\x7d' :: cs)) _ := .cons rfl rfl (Nat.le_refl _) hvalue
    simpa [fieldChars, fieldTokens] using hcolon.quotedChars key
  | cs, ts, h, (key, j) :: e :: fields, hfields => by
    have hrest := scans_fieldChars h (e :: fields) fun f hf => hfields f (List.mem_cons_of_mem _ hf)
    have hcomma : Scans (',' :: (fieldChars (e :: fields) ++ '\x7d' :: cs)) _ :=
      .cons rfl rfl (Nat.le_refl _) hrest
    have hvalue := scans_chars hcomma j (hfields (key, j) List.mem_cons_self)
    have hcolon : Scans (':' :: (chars j ++ ',' :: (fieldChars (e :: fields) ++ '\x7d' :: cs))) _ :=
      .cons rfl rfl (Nat.le_refl _) hvalue
    simpa [fieldChars, fieldTokens] using hcolon.quotedChars key

end

/-- No value's text starts with a closing bracket. -/
theorem value?_openList {j : Json} {items : List Json} (fuel : Nat) (rest : List Token) :
    value? (fuel + 1) (.openList :: (itemTokens (j :: items) ++ rest)) =
      (listRest? fuel (itemTokens (j :: items) ++ rest)).map fun (js, rest) => (arr js, rest) := by
  cases items <;> cases j <;> rfl

theorem value?_openObject {e : String × Json} {fields : List (String × Json)} (fuel : Nat)
    (rest : List Token) :
    value? (fuel + 1) (.openObject :: (fieldTokens (e :: fields) ++ rest)) =
      (objectRest? fuel (fieldTokens (e :: fields) ++ rest)).map
        fun (fs, rest) => (ofFields fs, rest) := by
  cases fields <;> rfl

mutual

/-- As many steps as there are tokens suffice to read a value. -/
theorem value?_tokens : ∀ (rest : List Token) (fuel : Nat) (j : Json), Wordy j →
    (tokens j).length ≤ fuel → value? fuel (tokens j ++ rest) = some (j, rest)
  | _, 0, j, _, hfuel => by cases j <;> simp [tokens] at hfuel
  | _, _ + 1, .null, _, _ => rfl
  | _, _ + 1, .bool _, _, _ => rfl
  | _, _ + 1, .str _, _, _ => rfl
  | _, _ + 1, .arr [], _, _ => rfl
  | rest, fuel + 1, .arr (j :: items), .arr hitems, hfuel => by
    have hread := listRest?_tokens rest fuel j items hitems (by simpa [tokens] using hfuel)
    rw [tokens, List.cons_append, value?_openList, hread]
    rfl
  | _, _ + 1, .obj [], _, _ => rfl
  | rest, fuel + 1, .obj (e :: fields), .obj hkeys hfields, hfuel => by
    have hread := objectRest?_tokens rest fuel e fields hfields (by simpa [tokens] using hfuel)
    rw [tokens, List.cons_append, value?_openObject, hread]
    -- the fields are put in the order of their keys, in which they are already
    exact congrArg (fun fs => some (obj fs, rest)) hkeys.ofList_eq

theorem listRest?_tokens : ∀ (rest : List Token) (fuel : Nat) (j : Json) (items : List Json),
    (∀ i ∈ j :: items, Wordy i) → (itemTokens (j :: items)).length ≤ fuel →
    listRest? fuel (itemTokens (j :: items) ++ rest) = some (j :: items, rest)
  | _, 0, _, items, _, hfuel => by cases items <;> simp [itemTokens] at hfuel
  | rest, fuel + 1, j, [], hitems, hfuel => by
    have hread := value?_tokens (.closeList :: rest) fuel j (hitems j List.mem_cons_self)
      (by simp [itemTokens] at hfuel; omega)
    simp only [itemTokens, List.append_assoc, List.singleton_append, listRest?, hread]
  | rest, fuel + 1, j, k :: items, hitems, hfuel => by
    have hlength : (tokens j).length + (itemTokens (k :: items)).length ≤ fuel := by
      simp [itemTokens] at hfuel
      omega
    have hread := value?_tokens (.comma :: (itemTokens (k :: items) ++ rest)) fuel j
      (hitems j List.mem_cons_self) (by omega)
    have hrest := listRest?_tokens rest fuel k items
      (fun i hi => hitems i (List.mem_cons_of_mem j hi)) (by omega)
    simp only [itemTokens, List.append_assoc, List.cons_append, listRest?, hread, hrest,
      Option.map_some]

theorem objectRest?_tokens : ∀ (rest : List Token) (fuel : Nat) (e : String × Json)
    (fields : List (String × Json)), (∀ f ∈ e :: fields, Wordy f.2) →
    (fieldTokens (e :: fields)).length ≤ fuel →
    objectRest? fuel (fieldTokens (e :: fields) ++ rest) = some (e :: fields, rest)
  | _, 0, _, fields, _, hfuel => by cases fields <;> simp [fieldTokens] at hfuel
  | rest, fuel + 1, (key, j), [], hfields, hfuel => by
    have hread := value?_tokens (.closeObject :: rest) fuel j (hfields _ List.mem_cons_self)
      (by simp [fieldTokens] at hfuel; omega)
    simp only [fieldTokens, List.append_assoc, List.cons_append, List.nil_append, objectRest?,
      hread]
  | rest, fuel + 1, (key, j), e :: fields, hfields, hfuel => by
    have hlength : (tokens j).length + (fieldTokens (e :: fields)).length ≤ fuel := by
      simp [fieldTokens] at hfuel
      omega
    have hread := value?_tokens (.comma :: (fieldTokens (e :: fields) ++ rest)) fuel j
      (hfields _ List.mem_cons_self) (by omega)
    have hrest := objectRest?_tokens rest fuel e fields
      (fun f hf => hfields f (List.mem_cons_of_mem _ hf)) (by omega)
    simp only [fieldTokens, List.append_assoc, List.cons_append, objectRest?, hread, hrest,
      Option.map_some]

end

/-- What is written is read back. -/
theorem parse?_compact {j : Json} (h : Wordy j) : parse? (compact j) = some j := by
  have hscan : Token.scan (compact j).toList = some (tokens j) := by
    have hchars := scans_chars Token.scans_nil j h
    rw [List.append_nil, List.append_nil] at hchars
    rw [compact, String.toList_ofList]
    exact hchars _ (Nat.lt_succ_self _)
  have hvalue := value?_tokens [] ((tokens j).length + 1) j h (Nat.le_succ _)
  rw [List.append_nil] at hvalue
  simp only [parse?, hscan, Option.bind_eq_bind, Option.bind_some, hvalue]

end TableView.Json
