import TableView.Proofs.Calendar.Days
import TableView.Proofs.Text.ByteOrder

/-! Written dates and instants in the order of their texts. It is the order of time as long as the
years are written with four digits; later years have a sign, which comes before every digit. -/
namespace TableView
open Text

variable {x y : List Char} {n m width : Nat} {s : Char}

theorem padded_append_zeros (hwidth : 0 < width) (h : n < 10 ^ width) (i : Nat) :
    padded width n ++ List.replicate i '0' = padded (width + i) (n * 10 ^ i) := by
  have hlength := length_padded hwidth h
  apply eq_padded ((areDigits_padded width n).append (areDigits_zeros i)) (by omega)
  · simp [hlength]
  · rw [digitsValue_append, digitsValue_padded, digitsValue_zeros, List.length_replicate,
      Nat.add_zero]

/-- A number too long for a width is written as for the next width. -/
theorem padded_succ (h : 10 ^ width ≤ n) (hwidth : 0 < width) :
    padded width n = padded (width + 1) n := by
  have hlong : ¬ (Nat.toDigits 10 n).length ≤ width := by
    rw [Nat.length_toDigits_le_iff (by decide) hwidth]
    omega
  have hnone : width - (Nat.toDigits 10 n).length = 0 := by omega
  have hnone' : width + 1 - (Nat.toDigits 10 n).length = 0 := by omega
  simp only [padded, hnone, hnone']

/-- Signs come before digits. -/
theorem before_padded_of_lt (hs : s.toNat < '0'.toNat) : Before (s :: x) (padded width n ++ y) := by
  obtain ⟨c, cs, hcs⟩ := List.exists_cons_of_ne_nil (padded_ne_nil width n)
  have hdigit : c.isDigit = true := areDigits_padded width n c (hcs ▸ List.mem_cons_self)
  rw [hcs, List.cons_append, before_cons_iff]
  exact Or.inl (lt_of_lt_of_le hs (Char.isDigit_iff_toNat.mp hdigit).1)

namespace Date

/-- Years of which the later one has the later text: neither has a sign, or both have one and if one
has fewer digits than the other, these are not more than the digits that the other begins with. -/
def InTextOrder (y z : Int) : Prop :=
  y ≤ 9999 ∧ z ≤ 9999 ∨ 9999 < y ∧ 9999 < z ∧
    (y ≤ 99999 → 99999 < z → y ≤ z / 10) ∧ (z ≤ 99999 → 99999 < y → z ≤ y / 10)

theorem yearText_of_le (h : n ≤ 9999) : yearText n = padded 4 n := by
  have hneg : ¬ (n : Int) < 0 := by omega
  have hshort : ¬ 9999 < (n : Int) := by omega
  rw [yearText, if_neg hneg, if_neg hshort, Int.natAbs_natCast]

theorem yearText_of_lt (h : 9999 < n) : yearText n = '+' :: padded 4 n := by
  have hneg : ¬ (n : Int) < 0 := by omega
  have hlong : 9999 < (n : Int) := by omega
  rw [yearText, if_neg hneg, if_pos hlong, Int.natAbs_natCast]

theorem padded_five (h : 9999 < n) : padded 4 n = padded 5 n := padded_succ h (by decide)

theorem padded_six (h : 99999 < n) : padded 4 n = padded 6 n := by
  rw [padded_five (by omega), padded_succ h (by decide)]

/-- Six digits are the first five and the last one. -/
theorem padded_six_split (h : 99999 < n) (hlt : n < 1000000) :
    padded 4 n = padded 5 (n / 10) ++ padded 1 (n % 10) := by
  have hlength : (padded 5 (n / 10)).length = 5 := length_padded (by decide) (by omega)
  have hone : (padded 1 (n % 10)).length = 1 := length_padded (by decide) (by omega)
  rw [padded_six h]
  symm
  apply eq_padded ((areDigits_padded _ _).append (areDigits_padded _ _)) (by decide)
  · rw [List.length_append, hlength, hone]
  · rw [digitsValue_append, digitsValue_padded, digitsValue_padded, hone]
    omega

/-- Five digits against six: the first five decide, and if they agree the shorter year is first. -/
theorem before_of_digits_five_six (hn : 9999 < n) (hn' : n ≤ 99999) (hm : 99999 < m)
    (hm' : m < 1000000) :
    (Before (padded 4 n ++ '-' :: x) (padded 4 m ++ y) ↔ n ≤ m / 10) ∧
      (Before (padded 4 m ++ y) (padded 4 n ++ '-' :: x) ↔ m / 10 < n) := by
  have hbefore : Before ('-' :: x) (padded 1 (m % 10) ++ y) := before_padded_of_lt (by decide)
  rw [padded_five hn, padded_six_split hm hm', List.append_assoc,
    before_padded_iff (by decide) (by omega) (by omega),
    before_padded_iff (by decide) (by omega) (by omega)]
  simp only [hbefore, before_asymm hbefore, and_true, and_false, or_false]
  omega

theorem not_inTextOrder_of_sign (hn : n ≤ 9999) (hm : 9999 < m) :
    ¬ InTextOrder n m ∧ ¬ InTextOrder m n := by
  unfold InTextOrder
  omega

/-- Years of one width, and the parts of the texts that follow them. -/
theorem before_years_of_same (hwidth : 0 < width) (hn : n < 10 ^ width) (hm : m < 10 ^ width)
    (hpadded : padded 4 n = padded width n) (hpadded' : padded 4 m = padded width m) :
    Before (padded 4 n ++ '-' :: x) (padded 4 m ++ '-' :: y) ↔ n < m ∨ n = m ∧ Before x y := by
  rw [hpadded, hpadded', before_padded_iff hwidth hn hm, before_cons_self]

theorem before_signed_years (hsign : 9999 < n) (hsign' : 9999 < m) (hn : n < 1000000)
    (hm : m < 1000000) : Before (padded 4 n ++ '-' :: x) (padded 4 m ++ '-' :: y) ↔
      InTextOrder n m ∧ (n < m ∨ n = m ∧ Before x y) ∨ ¬ InTextOrder n m ∧ m < n := by
  -- Six digits or five, for each of the two.
  rcases Nat.lt_or_ge 99999 n with hlong | hshort <;>
    rcases Nat.lt_or_ge 99999 m with hlong' | hshort'
  · have hboth : InTextOrder n m := Or.inr (by omega)
    rw [before_years_of_same (by decide) (by omega) (by omega) (padded_six hlong)
      (padded_six hlong')]
    simp only [hboth, true_and, not_true_eq_false, false_and, or_false]
  · have horder : InTextOrder n m ↔ m ≤ n / 10 := by
      unfold InTextOrder
      omega
    have hgt : ¬ n < m ∧ n ≠ m ∧ m < n := by omega
    rw [(before_of_digits_five_six hsign' hshort' hlong hn).2, horder]
    simp only [hgt, false_and, or_false, and_false, false_or, and_true, not_le]
  · have horder : InTextOrder n m ↔ n ≤ m / 10 := by
      unfold InTextOrder
      omega
    have hlt : n < m ∧ ¬ m < n := by omega
    rw [(before_of_digits_five_six hsign hshort hlong' hm).1, horder]
    simp only [hlt, true_or, and_true, and_false, or_false]
  · have hboth : InTextOrder n m := Or.inr (by omega)
    rw [before_years_of_same (by decide) (by omega) (by omega) (padded_five hsign)
      (padded_five hsign')]
    simp only [hboth, true_and, not_true_eq_false, false_and, or_false]

/-- Years are in the order of their texts, and then what follows them, or else in the opposite. -/
theorem before_years (hn : n < 1000000) (hm : m < 1000000) :
    Before (yearText n ++ '-' :: x) (yearText m ++ '-' :: y) ↔
      InTextOrder n m ∧ (n < m ∨ n = m ∧ Before x y) ∨ ¬ InTextOrder n m ∧ m < n := by
  -- A sign or none, for each of the two.
  rcases Nat.lt_or_ge 9999 n with hsign | hplain <;>
    rcases Nat.lt_or_ge 9999 m with hsign' | hplain'
  · rw [yearText_of_lt hsign, yearText_of_lt hsign', List.cons_append, List.cons_append,
      before_cons_self, before_signed_years hsign hsign' hn hm]
  · have hnot := (not_inTextOrder_of_sign hplain' hsign).2
    have hbefore : Before ('+' :: padded 4 n ++ '-' :: x) (padded 4 m ++ '-' :: y) :=
      before_padded_of_lt (by decide)
    rw [yearText_of_lt hsign, yearText_of_le hplain']
    simp only [hnot, hbefore, false_and, not_false_eq_true, true_and, false_or, true_iff]
    omega
  · have hnot := (not_inTextOrder_of_sign hplain hsign').1
    have hbefore : Before ('+' :: padded 4 m ++ '-' :: y) (padded 4 n ++ '-' :: x) :=
      before_padded_of_lt (by decide)
    rw [yearText_of_le hplain, yearText_of_lt hsign']
    simp only [hnot, before_asymm hbefore, false_and, not_false_eq_true, true_and, false_or,
      false_iff]
    omega
  · have hboth : InTextOrder n m := Or.inl (by omega)
    rw [yearText_of_le hplain, yearText_of_le hplain',
      before_years_of_same (by decide : 0 < 4) (by omega) (by omega) rfl rfl]
    simp only [hboth, true_and, not_true_eq_false, false_and, or_false]

variable {d e : Date}

theorem exists_year (h : 0 ≤ d.year) : ∃ n : Nat, d.year = n ∧ n < 1000000 := by
  have hyear := d.year_mem.2
  rw [lastYear] at hyear
  exact ⟨d.year.toNat, by omega, by omega⟩

theorem before_chars (hd : 0 ≤ d.year) (he : 0 ≤ e.year) :
    Before (d.chars ++ x) (e.chars ++ y) ↔
      InTextOrder d.year e.year ∧ (d < e ∨ d = e ∧ Before x y) ∨
        ¬ InTextOrder d.year e.year ∧ e.year < d.year := by
  obtain ⟨n, hn, hlarge⟩ := exists_year hd
  obtain ⟨m, hm, hlarge'⟩ := exists_year he
  obtain ⟨hmonth, hday⟩ := d.month_day_lt
  obtain ⟨hmonth', hday'⟩ := e.month_day_lt
  have hsame : d = e ↔ d.year = e.year ∧ d.month = e.month ∧ d.day = e.day := Date.ext_iff
  simp only [chars, hn, hm, List.append_assoc, List.cons_append]
  rw [before_years hlarge hlarge', before_padded_iff (by decide) hmonth hmonth', before_cons_self,
    before_padded_iff (by decide) hday hday', lt_iff, hsame, hn, hm]
  simp only [Int.ofNat_lt, Int.natCast_inj, and_or_left, or_assoc, and_assoc]

end Date

namespace Instant

theorem fraction_eq_digits (h : n < 1000000000) (hne : n ≠ 0) : ∃ ds i,
    fraction n = '.' :: ds ∧ AreDigits ds ∧ ds ++ List.replicate i '0' = padded 9 n := by
  unfold fraction
  rw [if_neg hne]
  split
  · next hmillis =>
    refine ⟨_, 6, rfl, areDigits_padded _ _, ?_⟩
    rw [padded_append_zeros (by decide) (by omega)]
    congr 1
    omega
  split
  · next hmicros =>
    refine ⟨_, 3, rfl, areDigits_padded _ _, ?_⟩
    rw [padded_append_zeros (by decide) (by omega)]
    congr 1
    omega
  · exact ⟨_, 0, rfl, areDigits_padded _ _, List.append_nil _⟩

/-- The digits of a fraction are cut, but only zeros are cut off. -/
theorem before_fraction_of_lt (h : n < m) (hm : m < 1000000000) :
    Before (fraction n) (fraction m) := by
  obtain ⟨ds', j, hds', hdigits', hpadded'⟩ := fraction_eq_digits hm (by omega)
  by_cases hzero : n = 0
  · rw [hzero, hds']
    exact List.Lex.nil
  · obtain ⟨ds, i, hds, hdigits, hpadded⟩ := fraction_eq_digits (by omega) hzero
    rw [hds, hds', before_cons_self]
    have hn : (padded 9 n).length = 9 := length_padded (by decide) (by omega)
    have hm : (padded 9 m).length = 9 := length_padded (by decide) (by omega)
    apply before_of_zeros (i := i) (j := j) hdigits hdigits'
    · rw [← hpadded, List.length_append, List.length_replicate] at hn
      rw [← hpadded', List.length_append, List.length_replicate] at hm
      omega
    · rw [hpadded, hpadded', before_iff_of_digits (areDigits_padded _ _) (areDigits_padded _ _)
        (by omega), digitsValue_padded, digitsValue_padded]
      exact h

theorem before_fraction_iff (hn : n < 1000000000) (hm : m < 1000000000) :
    Before (fraction n) (fraction m) ↔ n < m := by
  rcases Nat.lt_trichotomy n m with hlt | rfl | hgt
  · exact iff_of_true (before_fraction_of_lt hlt hm) hlt
  · exact iff_of_false (before_irrefl _) (Nat.lt_irrefl n)
  · exact iff_of_false (before_asymm (before_fraction_of_lt hgt hn)) (Nat.lt_asymm hgt)

variable {t u : Instant}

/-- Two instants are in the order of their texts, unless their years are not. -/
theorem before_chars (ht : 0 ≤ t.date.year) (hu : 0 ≤ u.date.year) :
    Before t.chars u.chars ↔ Date.InTextOrder t.date.year u.date.year ∧ t < u ∨
      ¬ Date.InTextOrder t.date.year u.date.year ∧ u.date.year < t.date.year := by
  obtain ⟨hhour, hminute, hsecond, hnanos⟩ := t.clock_lt
  obtain ⟨hhour', hminute', hsecond', hnanos'⟩ := u.clock_lt
  simp only [chars, clockChars, List.append_assoc, List.cons_append]
  rw [Date.before_chars ht hu, before_cons_self,
    before_padded_iff (by decide) (by omega) (by omega), before_cons_self,
    before_padded_iff (by decide) (by omega) (by omega), before_cons_self,
    before_padded_iff (by decide) (by omega) (by omega), before_fraction_iff hnanos hnanos',
    lt_iff, Date.lt_iff, Date.ext_iff]
  simp only [and_or_left, or_assoc, and_assoc]

end Instant
end TableView
