import Mathlib.Tactic.Ring
import TableView.Calendar.Text

/-! Numbers written with digits: the digits spell the number, and reading finds it again. -/
namespace TableView

namespace Text

variable {ds more rest : List Char} {n : Nat}

def AreDigits (ds : List Char) : Prop := ∀ c ∈ ds, c.isDigit = true

theorem AreDigits.append (h : AreDigits ds) (hmore : AreDigits more) : AreDigits (ds ++ more) :=
  fun c hc => (List.mem_append.mp hc).elim (h c) (hmore c)

theorem areDigits_zeros (n : Nat) : AreDigits (List.replicate n '0') := by
  intro c hc
  obtain rfl := List.eq_of_mem_replicate hc
  decide

theorem digitsValue_eq (ds : List Char) : digitsValue ds = Nat.ofDigitChars 10 ds 0 := by
  simp [digitsValue, Nat.ofDigitChars_eq_foldl, digitValue, Nat.mul_comm]

theorem digitsValue_append (ds more : List Char) :
    digitsValue (ds ++ more) = digitsValue ds * 10 ^ more.length + digitsValue more := by
  simp only [digitsValue_eq]
  rw [Nat.ofDigitChars_append, Nat.ofDigitChars_eq_ofDigitChars_zero, Nat.mul_comm]

theorem digitsValue_cons (c : Char) (ds : List Char) :
    digitsValue (c :: ds) = digitValue c * 10 ^ ds.length + digitsValue ds := by
  have hone : digitsValue [c] = digitValue c := by simp [digitsValue]
  rw [← List.singleton_append, digitsValue_append, hone]

theorem digitsValue_zeros (n : Nat) : digitsValue (List.replicate n '0') = 0 := by
  rw [digitsValue_eq, Nat.ofDigitChars_replicate_zero, Nat.mul_zero]

theorem digitValue_lt {c : Char} (h : c.isDigit = true) : digitValue c < 10 := by
  have hc := Char.isDigit_iff_toNat.mp h
  have h0 : '0'.toNat = 48 := rfl
  have h9 : '9'.toNat = 57 := rfl
  unfold digitValue
  omega

theorem digitsValue_lt (h : AreDigits ds) : digitsValue ds < 10 ^ ds.length := by
  induction ds with
  | nil => decide
  | cons c ds ih =>
    have hc := digitValue_lt (h c List.mem_cons_self)
    have hrest := ih fun d hd => h d (List.mem_cons_of_mem c hd)
    rw [digitsValue_cons, List.length_cons, pow_succ, Nat.mul_comm (10 ^ ds.length)]
    calc digitValue c * 10 ^ ds.length + digitsValue ds
        < digitValue c * 10 ^ ds.length + 10 ^ ds.length := by omega
      _ = (digitValue c + 1) * 10 ^ ds.length := by ring
      _ ≤ 10 * 10 ^ ds.length := Nat.mul_le_mul_right _ hc

/-- A text is read as a number when it has digits and nothing else. -/
theorem nat?_eq_some : nat? ds = some n ↔ (ds ≠ [] ∧ AreDigits ds) ∧ digitsValue ds = n := by
  have hread : (ds.isEmpty || !ds.all Char.isDigit) = false ↔ ds ≠ [] ∧ AreDigits ds := by
    simp [AreDigits]
  unfold nat?
  split
  · next h =>
    rw [← hread, h]
    simp
  · next h =>
    rw [← hread, Bool.eq_false_iff.mpr h]
    simp

theorem nat?_of_areDigits (h : AreDigits ds) (hne : ds ≠ []) : nat? ds = some (digitsValue ds) :=
  nat?_eq_some.mpr ⟨⟨hne, h⟩, rfl⟩

theorem fit64?_natCast (n : Nat) :
    fit64? (n : Int) = if (n : Int) ≤ maxInt64 then some (n : Int) else none := by
  have hmin : minInt64 ≤ (n : Int) := by
    unfold minInt64
    omega
  simp only [fit64?, hmin, true_and]

theorem isBlank_of_isDigit {c : Char} (h : c.isDigit = true) : isBlank c = false := by
  have hc := Char.isDigit_iff_toNat.mp h
  have h0 : '0'.toNat = 48 := rfl
  have h9 : '9'.toNat = 57 := rfl
  simp only [isBlank, Ranges.has, blankRanges, List.any_cons, List.any_nil, Bool.or_false,
    Bool.or_eq_false_iff, Bool.and_eq_false_iff, decide_eq_false_iff_not]
  omega

/-- A blank is no digit, so that nothing in front of a number is passed over. -/
theorem dropWhile_isBlank (h : AreDigits ds) (hne : ds ≠ []) (rest : List Char) :
    (ds ++ rest).dropWhile isBlank = ds ++ rest := by
  cases ds with
  | nil => exact absurd rfl hne
  | cons c ds => simp [isBlank_of_isDigit (h c List.mem_cons_self)]

end Text

open Text

variable {ds rest : List Char} {width most n : Nat}

theorem areDigits_padded (width n : Nat) : AreDigits (padded width n) :=
  (areDigits_zeros _).append fun _ hc => Nat.isDigit_of_mem_toDigits (by decide) (by decide) hc

theorem padded_ne_nil (width n : Nat) : padded width n ≠ [] := by
  simp [padded, Nat.toDigits_ne_nil]

theorem digitsValue_padded (width n : Nat) : digitsValue (padded width n) = n := by
  rw [padded, digitsValue_append, digitsValue_zeros, Nat.zero_mul, Nat.zero_add, digitsValue_eq,
    Nat.ofDigitChars_toDigits (by decide) (by decide)]

theorem length_padded (hwidth : 0 < width) (h : n < 10 ^ width) :
    (padded width n).length = width := by
  have hlength := (Nat.length_toDigits_le_iff (b := 10) (by decide) hwidth).mpr h
  simp only [padded, List.length_append, List.length_replicate]
  omega

/-- Reading stops after the digits when no more are allowed or none follow. -/
theorem readDigits?_append (h : AreDigits ds) (hne : ds ≠ []) (hlength : ds.length ≤ most)
    (hstop : ds.length = most ∨ ∀ c ∈ rest.head?, c.isDigit = false) :
    readDigits? most (ds ++ rest) = some (digitsValue ds, rest) := by
  have hrest : (rest.take (most - ds.length)).takeWhile Char.isDigit = [] := by
    rcases hstop with heq | hhead
    · rw [heq, Nat.sub_self]
      rfl
    · cases rest with
      | nil => simp
      | cons c rest =>
        cases most - ds.length with
        | zero => rfl
        | succ k => simp [hhead c rfl]
  have hread : ((ds ++ rest).take most).takeWhile Char.isDigit = ds := by
    rw [List.take_append, List.take_of_length_le hlength, List.takeWhile_append_of_pos h, hrest,
      List.append_nil]
  rw [readDigits?, hread]
  simp only [nat?_of_areDigits h hne, Option.map_some, List.drop_left]

theorem readNumber?_padded (h : n < 100) (rest : List Char) :
    readNumber? (padded 2 n ++ rest) = some (n, rest) := by
  have hlength : (padded 2 n).length = 2 := length_padded (by decide) h
  rw [readNumber?, dropWhile_isBlank (areDigits_padded 2 n) (padded_ne_nil 2 n),
    readDigits?_append (areDigits_padded 2 n) (padded_ne_nil 2 n) hlength.le (Or.inl hlength),
    digitsValue_padded]

end TableView
