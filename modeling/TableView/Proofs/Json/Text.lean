import Mathlib.Data.List.Forall2
import TableView.Json.Parser
import TableView.Json.Printer

/-! What JSON text determines: a string can be read back from it, no value's text goes on to
another's, and objects of equal text agree field by field. -/
namespace TableView.Json

namespace Token

theorem string?_plain {c : Char} (hc : ¬ c.toNat < 32) (hq : c ≠ '"') (hb : c ≠ '\\')
    (acc rest : List Char) : string? acc (c :: rest) = string? (c :: acc) rest := by
  rw [string?.eq_def]
  split
  case h_4 h =>
    obtain ⟨rfl, rfl⟩ := List.cons.inj h
    rw [if_neg (not_or.mpr ⟨hc, hb⟩)]
  all_goals simp_all

/-- A control character without an escape of its own is spelled by two digits. -/
theorem unit?_control {n : Nat} (hn : n < 32) :
    unit? '0' '0' (Nat.digitChar (n / 16)) (Nat.digitChar (n % 16)) = some n := by
  revert n
  decide

theorem string?_control {c : Char} (hc : c.toNat < 32) (acc rest : List Char) :
    string? acc ('\\' :: 'u' :: '0' :: '0' :: Nat.digitChar (c.toNat / 16) ::
      Nat.digitChar (c.toNat % 16) :: rest) = string? (c :: acc) rest := by
  have hlow : ¬ (0xD800 ≤ c.toNat ∧ c.toNat < 0xDC00) := by omega
  have hhigh : ¬ (0xDC00 ≤ c.toNat ∧ c.toNat < 0xE000) := by omega
  rw [string?]
  simp only [unit?_control hc, Option.bind_eq_bind, Option.bind_some, hlow, hhigh, if_false,
    Char.ofNat_toNat]

theorem string?_escapeChar (c : Char) (acc rest : List Char) :
    string? acc (escapeChar c ++ rest) = string? (c :: acc) rest := by
  unfold escapeChar
  split
  case h_8 =>
    split
    · exact string?_control ‹_› acc rest
    · exact string?_plain ‹_› (by assumption) (by assumption) acc rest
  all_goals simp [string?, escaped?]

/-- Reading a written string gives it back, whatever follows. -/
theorem string?_written (cs acc rest : List Char) :
    string? acc (cs.flatMap escapeChar ++ '"' :: rest) =
      some (String.ofList (acc.reverse ++ cs), rest) := by
  induction cs generalizing acc with
  | nil => simp [string?]
  | cons c cs ih =>
    rw [List.flatMap_cons, List.append_assoc, string?_escapeChar, ih]
    simp

end Token

theorem quotedChars_inj {s t : String} (h : quotedChars s = quotedChars t) : s = t := by
  have hread : ∀ u : String, (Token.string? [] ((quotedChars u).drop 1)).map Prod.fst = some u := by
    intro u
    simp [quotedChars, Token.string?_written]
  exact Option.some.inj ((hread s).symm.trans ((congrArg _ (by rw [h])).trans (hread t)))

/-- Where a scan of JSON text stands. -/
inductive Place | between | inString | afterBackslash | afterString
deriving DecidableEq

namespace Place

/-- Whether a character ends a value or stands between two. -/
def isPunctuation (c : Char) : Bool := c = ',' || c = ':' || c = ']' || c = '\x7d'

/-- Punctuation stands only inside of lists and objects, some of which it closes. -/
def punctuation? : Nat → Char → Option (Nat × Place)
  | 0, _ => none
  | d + 1, c => some (if c = ']' ∨ c = '\x7d' then d else d + 1, between)

/-- One character on, with the number of lists and objects that are open. Nothing but punctuation
follows a string, and an underscore stands in strings only. -/
def step : Nat × Place → Char → Option (Nat × Place)
  | (d, inString), c =>
    some (d, if c = '"' then afterString else if c = '\\' then afterBackslash else inString)
  | (d, afterBackslash), _ => some (d, inString)
  | (d, afterString), c => if isPunctuation c then punctuation? d c else none
  | (d, between), c =>
    if c = '"' then some (d, inString)
    else if c = '[' ∨ c = '\x7b' then some (d + 1, between)
    else if isPunctuation c then punctuation? d c
    else if c = '_' then none
    else some (d, between)

def run (s : Nat × Place) (cs : List Char) : Option (Nat × Place) := cs.foldlM step s

variable {d : Nat} {s : Nat × Place} {cs ds : List Char} {c : Char}

@[simp] theorem run_nil : run s [] = some s := rfl

@[simp] theorem run_cons : run s (c :: cs) = (step s c).bind (run · cs) := by
  simp only [run, List.foldlM_cons, Option.bind_eq_bind]

@[simp] theorem run_append : run s (cs ++ ds) = (run s cs).bind (run · ds) := by
  simp only [run, List.foldlM_append, Option.bind_eq_bind]

/-- Characters of numbers and of the three words. -/
def isPlain (c : Char) : Bool := c.isDigit || c.isAlpha || c = '.' || c = '-'

/-- All characters are those of numbers and words. -/
def IsPlain (cs : List Char) : Prop := ∀ c ∈ cs, isPlain c = true

-- by the list: there are too many characters to try them all
instance (cs : List Char) : Decidable (IsPlain cs) := List.decidableBAll _ cs

theorem step_plain (hc : isPlain c = true) : step (d, between) c = some (d, between) := by
  have hne : ∀ e : Char, isPlain e = false → c ≠ e := by
    rintro e he rfl
    simp [he] at hc
  simp [step, isPunctuation, hne '"' rfl, hne '[' rfl, hne '\x7b' rfl, hne ',' rfl, hne ':' rfl,
    hne ']' rfl, hne '\x7d' rfl, hne '_' rfl]

theorem run_plain (h : IsPlain cs) : run (d, between) cs = some (d, between) := by
  induction cs with
  | nil => rfl
  | cons c cs ih =>
    rw [run_cons, step_plain (h c List.mem_cons_self), Option.bind_some]
    exact ih fun e he => h e (List.mem_cons_of_mem _ he)

/-- In a string all characters but quotes and backslashes stand for themselves. -/
theorem step_inString (hq : c ≠ '"') (hb : c ≠ '\\') :
    step (d, inString) c = some (d, inString) := by
  simp [step, hq, hb]

theorem step_digitChar {n : Nat} (hn : n < 16) :
    step (d, inString) (Nat.digitChar n) = some (d, inString) := by
  have hne : ∀ n < 16, Nat.digitChar n ≠ '"' ∧ Nat.digitChar n ≠ '\\' := by decide
  exact step_inString (hne n hn).1 (hne n hn).2

theorem run_escapeChar (c : Char) : run (d, inString) (escapeChar c) = some (d, inString) := by
  unfold escapeChar
  split
  case h_8 hq hb _ _ _ _ _ =>
    split
    · have hhigh := step_digitChar (d := d) (show c.toNat / 16 < 16 by omega)
      have hlow := step_digitChar (d := d) (show c.toNat % 16 < 16 by omega)
      show run (d, inString) [Nat.digitChar (c.toNat / 16), Nat.digitChar (c.toNat % 16)] = _
      rw [run_cons, hhigh, Option.bind_some, run_cons, hlow, Option.bind_some, run_nil]
    · rw [run_cons, step_inString hq hb, Option.bind_some, run_nil]
  all_goals simp [step]

theorem run_quotedChars (s : String) :
    run (d, between) (quotedChars s) = some (d, afterString) := by
  have hbody : ∀ cs : List Char,
      run (d, inString) (cs.flatMap escapeChar) = some (d, inString) := by
    intro cs
    induction cs with
    | nil => rfl
    | cons c cs ih => rw [List.flatMap_cons, run_append, run_escapeChar, Option.bind_some, ih]
  simp [quotedChars, step, hbody]

section Numbers
open Decimal (Digits Layout)

theorem IsPlain.append (hc : IsPlain cs) (hd : IsPlain ds) : IsPlain (cs ++ ds) := by
  intro c h
  exact (List.mem_append.mp h).elim (hc c) (hd c)

theorem isPlain_toDigits (n : Nat) : IsPlain (Nat.toDigits 10 n) := by
  intro c hc
  have := Nat.isDigit_of_mem_toDigits (by omega) (by omega) hc
  simp [isPlain, this]

theorem isPlain_zeros (n : Nat) : IsPlain (Layout.zeros n) := by
  intro c hc
  rw [List.eq_of_mem_replicate hc]
  rfl

theorem isPlain_int (n : Int) : IsPlain (toString n).toList := by
  cases n with
  | ofNat n => simpa [toString, Int.repr] using isPlain_toDigits n
  | negSucc n =>
    have hminus : IsPlain ['-'] := by simp [IsPlain, isPlain]
    simpa [toString, Int.repr] using hminus.append (isPlain_toDigits (n + 1))

theorem isPlain_positional (hc : IsPlain cs) (e : Int) (l : Layout) :
    IsPlain (l.positional cs e) := by
  simp only [Layout.positional]
  split
  · refine (hc.append (isPlain_zeros _)).append ?_
    split <;> simp [IsPlain, isPlain]
  · split
    · exact (IsPlain.append (by simp [IsPlain, isPlain]) (isPlain_zeros _)).append hc
    · have htake : IsPlain (cs.take ((cs.length : Int) + e).toNat) := fun c h =>
        hc c (List.mem_of_mem_take h)
      exact (htake.append (by simp [IsPlain, isPlain])).append fun c h =>
        hc c (List.mem_of_mem_drop h)

theorem isPlain_scientific (hc : IsPlain cs) (e : Int) : IsPlain (Layout.scientific cs e) := by
  have hpoint : IsPlain ['.'] := by decide
  have hmark : IsPlain ['e'] := by decide
  have htake : IsPlain (cs.take 1) := fun c h => hc c (List.mem_of_mem_take h)
  have htail : IsPlain (if (cs.drop 1).isEmpty then [] else '.' :: cs.drop 1) := by
    split
    · simp [IsPlain]
    · exact hpoint.append fun c h => hc c (List.mem_of_mem_drop h)
  exact (htake.append htail).append (hmark.append (isPlain_int _))

theorem isPlain_number (n : Number) : IsPlain n.chars := by
  cases n with
  | int n => exact isPlain_int n
  | float x =>
    have hdigits : ∀ d : Digits, IsPlain (Number.layout.digits d) := by
      intro d
      simp only [Layout.digits, Number.layout]
      split
      · exact isPlain_positional (isPlain_toDigits _) _ _
      · exact isPlain_scientific (isPlain_toDigits _) _
    have hmagnitude : ∀ bits, IsPlain (Number.layout.magnitude bits) := by
      intro bits
      simp only [Layout.magnitude]
      split
      · decide
      · split
        · decide
        · exact hdigits _
    simp only [Number.chars, Layout.text]
    split
    · decide
    · rw [String.toList_ofList]
      refine IsPlain.append ?_ (hmagnitude _)
      split <;> simp [IsPlain, isPlain]

end Numbers

/-- Where a value has just ended. -/
def IsEnd (p : Place) : Prop := p = between ∨ p = afterString

theorem step_punctuation {p : Place} (hp : p.IsEnd) (hc : isPunctuation c = true) :
    step (d, p) c = punctuation? d c := by
  have hcases : c = ',' ∨ c = ':' ∨ c = ']' ∨ c = '\x7d' := by
    simpa [isPunctuation, or_assoc] using hc
  rcases hp with rfl | rfl
  · rcases hcases with rfl | rfl | rfl | rfl <;> simp [step, isPunctuation]
  · simp [step, hc]

theorem run_punctuation {p : Place} (hp : p.IsEnd) (hc : isPunctuation c = true) :
    run (d + 1, p) (c :: cs) = run (if c = ']' ∨ c = '\x7d' then d else d + 1, between) cs := by
  rw [run_cons, step_punctuation hp hc]
  rfl

mutual

/-- The text of a value closes what it opens. -/
theorem run_chars (d : Nat) : ∀ j : Json,
    ∃ p : Place, p.IsEnd ∧ run (d, between) (chars j) = some (d, p)
  | .null => ⟨between, Or.inl rfl, run_plain (by decide)⟩
  | .bool true => ⟨between, Or.inl rfl, run_plain (by decide)⟩
  | .bool false => ⟨between, Or.inl rfl, run_plain (by decide)⟩
  | .num n => ⟨between, Or.inl rfl, run_plain (isPlain_number n)⟩
  | .str s => ⟨afterString, Or.inr rfl, run_quotedChars s⟩
  | .arr items => by
    obtain ⟨p, hp, hrun⟩ := run_itemChars d items
    refine ⟨between, Or.inl rfl, ?_⟩
    show run (d + 1, between) (itemChars items ++ [']']) = _
    rw [run_append, hrun, Option.bind_some, run_punctuation hp rfl]
    rfl
  | .obj fields => by
    obtain ⟨p, hp, hrun⟩ := run_fieldChars d fields
    refine ⟨between, Or.inl rfl, ?_⟩
    show run (d + 1, between) (fieldChars fields ++ ['\x7d']) = _
    rw [run_append, hrun, Option.bind_some, run_punctuation hp rfl]
    rfl

theorem run_itemChars (d : Nat) : ∀ items : List Json,
    ∃ p : Place, p.IsEnd ∧ run (d + 1, between) (itemChars items) = some (d + 1, p)
  | [] => ⟨between, Or.inl rfl, rfl⟩
  | [j] => run_chars (d + 1) j
  | j :: k :: rest => by
    obtain ⟨p, hp, hj⟩ := run_chars (d + 1) j
    obtain ⟨q, hq, hrest⟩ := run_itemChars d (k :: rest)
    refine ⟨q, hq, ?_⟩
    rw [itemChars, run_append, hj, Option.bind_some, run_punctuation hp rfl]
    · exact hrest
    · simp

theorem run_fieldChars (d : Nat) : ∀ fields : List (String × Json),
    ∃ p : Place, p.IsEnd ∧ run (d + 1, between) (fieldChars fields) = some (d + 1, p)
  | [] => ⟨between, Or.inl rfl, rfl⟩
  | [(key, j)] => by
    obtain ⟨p, hp, hj⟩ := run_chars (d + 1) j
    refine ⟨p, hp, ?_⟩
    rw [fieldChars, run_append, run_quotedChars, Option.bind_some, run_punctuation (Or.inr rfl) rfl]
    exact hj
  | (key, j) :: e :: rest => by
    obtain ⟨p, hp, hj⟩ := run_chars (d + 1) j
    obtain ⟨q, hq, hrest⟩ := run_fieldChars d (e :: rest)
    refine ⟨q, hq, ?_⟩
    rw [fieldChars, List.append_assoc, run_append, run_quotedChars, Option.bind_some,
      List.cons_append, run_punctuation (Or.inr rfl) rfl]
    show run (d + 1, between) (chars j ++ ',' :: fieldChars (e :: rest)) = _
    rw [run_append, hj, Option.bind_some, run_punctuation hp rfl]
    · exact hrest
    · simp

end

/-- An underscore leaves a scan inside of a string. -/
theorem run_underscore (h : run s (cs ++ '_' :: ds) ≠ none) :
    ∃ d, run s (cs ++ '_' :: ds) = run (d, inString) ds := by
  rw [run_append] at h ⊢
  cases hcs : run s cs with
  | none => simp [hcs] at h
  | some t =>
    obtain ⟨d, p⟩ := t
    cases p with
    | between | afterString => simp [hcs, step, isPunctuation] at h
    | inString | afterBackslash => exact ⟨d, by simp [step]⟩

end Place

/-- Text that can stand behind a value: none, or some that starts with punctuation. -/
def Follows (cs : List Char) : Prop := ∀ c ∈ cs.head?, Place.isPunctuation c = true

section Split
variable {j k : Json} {cs ds : List Char} {fs gs : List (String × Json)}

theorem follows_nil : Follows [] := by simp [Follows]

theorem follows_cons {c : Char} (hc : Place.isPunctuation c = true) : Follows (c :: cs) := by
  simpa [Follows] using hc

/-- No value's text goes on to another's by punctuation. -/
theorem eq_nil_of_chars (h : chars k = chars j ++ cs) (hcs : Follows cs) : cs = [] := by
  cases cs with
  | nil => rfl
  | cons c cs =>
    obtain ⟨p, -, hk⟩ := Place.run_chars 0 k
    obtain ⟨q, hq, hj⟩ := Place.run_chars 0 j
    rw [h, Place.run_append, hj, Option.bind_some, Place.run_cons,
      Place.step_punctuation hq (hcs c rfl)] at hk
    cases hk

theorem chars_append_inj (hcs : Follows cs) (hds : Follows ds)
    (h : chars j ++ cs = chars k ++ ds) : chars j = chars k ∧ cs = ds := by
  obtain ⟨es, hk, rfl⟩ | ⟨es, hj, rfl⟩ := List.append_eq_append_iff.mp h
  · have hes : es = [] := by
      apply eq_nil_of_chars hk
      cases es with
      | nil => exact follows_nil
      | cons c es => exact follows_cons (hcs c rfl)
    exact ⟨by simpa [hes] using hk.symm, by simp [hes]⟩
  · have hes : es = [] := by
      apply eq_nil_of_chars hj
      cases es with
      | nil => exact follows_nil
      | cons c es => exact follows_cons (hds c rfl)
    exact ⟨by simpa [hes] using hj, by simp [hes]⟩

/-- The rest of a list's or object's text after one of its parts. -/
def restChars {α : Type} (text : List α → List Char) : List α → List Char
  | [] => []
  | rest => ',' :: text rest

theorem follows_restChars {α : Type} (text : List α → List Char) (rest : List α) :
    Follows (restChars text rest) := by
  cases rest with
  | nil => exact follows_nil
  | cons a rest => exact follows_cons rfl

theorem itemChars_cons (j : Json) (rest : List Json) :
    itemChars (j :: rest) = chars j ++ restChars itemChars rest := by
  cases rest <;> simp [itemChars, restChars]

theorem fieldChars_cons (key : String) (j : Json) (rest : List (String × Json)) :
    fieldChars ((key, j) :: rest) =
      quotedChars key ++ ':' :: (chars j ++ restChars fieldChars rest) := by
  cases rest <;> simp [fieldChars, restChars]

theorem eq_of_itemChars {ss ts : List String}
    (h : itemChars (ss.map .str) = itemChars (ts.map .str)) : ss = ts := by
  induction ss generalizing ts with
  | nil =>
    cases ts with
    | nil => rfl
    | cons t ts =>
      rw [List.map_cons, itemChars_cons] at h
      simp [itemChars, chars, quotedChars] at h
  | cons s ss ih =>
    cases ts with
    | nil => rw [List.map_cons, itemChars_cons] at h; simp [itemChars, chars, quotedChars] at h
    | cons t ts =>
      rw [List.map_cons, List.map_cons, itemChars_cons, itemChars_cons] at h
      obtain ⟨hhead, hrest⟩ := chars_append_inj (follows_restChars _ _) (follows_restChars _ _) h
      obtain rfl := quotedChars_inj hhead
      refine congrArg (s :: ·) (ih ?_)
      cases ss <;> cases ts <;> simp_all [restChars]

/-- Fields with the same keys and with values of the same text, one by one. -/
def SameFields (fs gs : List (String × Json)) : Prop :=
  List.Forall₂ (fun e f => e.1 = f.1 ∧ chars e.2 = chars f.2) fs gs

theorem sameFields_of_fieldChars (h : fieldChars fs = fieldChars gs) : SameFields fs gs := by
  induction fs generalizing gs with
  | nil =>
    cases gs with
    | nil => exact .nil
    | cons f gs => rw [fieldChars_cons] at h; simp [fieldChars, quotedChars] at h
  | cons e fs ih =>
    obtain ⟨key, j⟩ := e
    cases gs with
    | nil => rw [fieldChars_cons] at h; simp [fieldChars, quotedChars] at h
    | cons f gs =>
      obtain ⟨key', k⟩ := f
      rw [fieldChars_cons, fieldChars_cons] at h
      obtain ⟨hkey, h⟩ := chars_append_inj (j := .str key) (k := .str key') (follows_cons rfl)
        (follows_cons rfl) h
      obtain ⟨hvalue, hrest⟩ := chars_append_inj (follows_restChars _ _) (follows_restChars _ _)
        (List.cons.inj h).2
      refine .cons ⟨quotedChars_inj hkey, hvalue⟩ (ih ?_)
      cases fs <;> cases gs <;> simp_all [restChars]

theorem SameFields.get? (h : SameFields fs gs) (key : String) :
    (Fields.get? fs key).map chars = (Fields.get? gs key).map chars := by
  induction h with
  | nil => rfl
  | @cons e f fs gs hef _ ih =>
    obtain ⟨k, j⟩ := e
    obtain ⟨k', j'⟩ := f
    obtain ⟨rfl, hj⟩ := hef
    simp only [Fields.get?_cons]
    split
    · simp only [Option.map_some, hj]
    · exact ih

end Split
end TableView.Json
