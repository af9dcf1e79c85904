import Mathlib.Data.List.Induction
import Mathlib.Data.Rat.Floor
import TableView.Proofs.Decimal.Bounded
import TableView.Proofs.Text.Digits

/-! Decimal numbers read from digits: they are what the digits spell as long as these fit, and then
the first digit that does not fit rounds them. -/
namespace TableView.Decimal.Bounded
open Text (AreDigits digitValue digitsValue)

variable {m n scale : Nat} {c : Char} {ds taken rest whole fraction : List Char} {b : Bounded}

/-- The number that a decimal stands for. -/
def value (b : Bounded) : ℚ := (if b.negative then -1 else 1) * ((b.mantissa : ℚ) / 10 ^ b.scale)

/-- The mantissa with more digits behind it. -/
def extend (m : Nat) (ds : List Char) : Nat := ds.foldl (fun n c => n * 10 + digitValue c) m

@[simp] theorem extend_nil (m : Nat) : extend m [] = m := rfl

@[simp] theorem extend_cons (m : Nat) (c : Char) (ds : List Char) :
    extend m (c :: ds) = extend (m * 10 + digitValue c) ds := List.foldl_cons ..

theorem extend_append (m : Nat) (ds more : List Char) :
    extend m (ds ++ more) = extend (extend m ds) more := List.foldl_append

theorem digitsValue_append_eq (ds more : List Char) :
    digitsValue (ds ++ more) = extend (digitsValue ds) more := extend_append 0 ds more

theorem le_extend (m : Nat) (ds : List Char) : m ≤ extend m ds := by
  induction ds generalizing m with
  | nil => exact Nat.le_refl m
  | cons c ds ih => exact Nat.le_trans (by omega) (ih (m * 10 + digitValue c))

theorem ne_underscore (h : c.isDigit = true) : c ≠ '_' := by
  rintro rfl
  exact absurd h (by decide)

/-- Digits before the point are read when they stay below the capacity. -/
theorem readWhole_eq (hm : m < capacity) (ds : List Char) :
    readWhole m ds = if extend m ds < capacity then some (extend m ds) else none := by
  induction ds generalizing m with
  | nil => simp [readWhole, hm]
  | cons c ds ih =>
    simp only [readWhole, extend_cons]
    by_cases hfits : m * 10 + digitValue c < capacity
    · rw [if_pos hfits, ih hfits]
    · -- what follows only makes the number larger
      have hlarger := le_extend (m * 10 + digitValue c) ds
      rw [if_neg hfits, if_neg (by omega)]

/-- Digits that fit are taken as they are. -/
theorem readFraction_append (hds : AreDigits taken)
    (hfits : Fits { mantissa := extend m taken, scale := scale + taken.length })
    (rest : List Char) :
    readFraction m scale (taken ++ rest) =
      readFraction (extend m taken) (scale + taken.length) rest := by
  induction taken generalizing m scale with
  | nil => rfl
  | cons c taken ih =>
    have hc : c.isDigit = true := hds c List.mem_cons_self
    have hlength : scale + (c :: taken).length = scale + 1 + taken.length := by
      rw [List.length_cons]
      omega
    rw [extend_cons, hlength] at hfits ⊢
    have hroom : scale < maxScale ∧ m * 10 + digitValue c < capacity := by
      have hlarger := le_extend (m * 10 + digitValue c) taken
      have hscale : scale + 1 + taken.length ≤ maxScale := hfits.scale
      exact ⟨by omega, Nat.lt_of_le_of_lt hlarger hfits.mantissa⟩
    rw [List.cons_append, readFraction, if_neg (ne_underscore hc), hc, if_pos hroom]
    exact ih (fun d hd => hds d (List.mem_cons_of_mem _ hd)) hfits

/-- Either all digits fit, or there is a first one that does not. -/
theorem exists_first_unfit (hfits : Fits { mantissa := m, scale }) (ds : List Char) :
    Fits { mantissa := extend m ds, scale := scale + ds.length } ∨
    ∃ taken c rest, ds = taken ++ c :: rest ∧
      Fits { mantissa := extend m taken, scale := scale + taken.length } ∧
      ¬ Fits { mantissa := extend m taken * 10 + digitValue c
               scale := scale + taken.length + 1 } := by
  induction ds using List.reverseRecOn with
  | nil => exact Or.inl hfits
  | append_singleton ds c ih =>
    rcases ih with hds | ⟨taken, d, rest, rfl, htaken, hfull⟩
    · rw [extend_append, List.length_append, List.length_singleton, ← Nat.add_assoc]
      by_cases hc : Fits { mantissa := extend m ds * 10 + digitValue c
                           scale := scale + ds.length + 1 }
      · exact Or.inl hc
      · exact Or.inr ⟨ds, c, [], rfl, hds, hc⟩
    · exact Or.inr ⟨taken, d, rest ++ [c], by simp, htaken, hfull⟩

/-- What digits are read as: nothing when those before the point do not fit, the number that they
spell when all fit, and else as many as fit, rounded by the next one. -/
inductive Reads (whole fraction : List Char) : Option Bounded → Prop
  | large (hlarge : capacity ≤ digitsValue whole) : Reads whole fraction none
  | exact (hfits : Fits { mantissa := digitsValue (whole ++ fraction), scale := fraction.length }) :
    Reads whole fraction
      (some { mantissa := digitsValue (whole ++ fraction), scale := fraction.length })
  | rounded {taken rest : List Char} {c : Char} (hfraction : fraction = taken ++ c :: rest)
    (hfits : Fits { mantissa := digitsValue (whole ++ taken), scale := taken.length })
    (hfull : ¬ Fits { mantissa := digitsValue (whole ++ taken) * 10 + digitValue c
                      scale := taken.length + 1 }) :
    Reads whole fraction
      (roundBy (digitValue c) (digitsValue (whole ++ taken)) taken.length)

theorem reads_ofDigits? (whole : List Char) (hfraction : AreDigits fraction) :
    Reads whole fraction (ofDigits? whole fraction) := by
  have hwhole : readWhole 0 whole =
      if digitsValue whole < capacity then some (digitsValue whole) else none :=
    readWhole_eq (by decide) whole
  unfold ofDigits?
  rw [hwhole]
  by_cases hlarge : digitsValue whole < capacity
  · have hzero : Fits { mantissa := digitsValue whole, scale := 0 } := ⟨hlarge, Nat.zero_le _⟩
    rw [if_pos hlarge, Option.bind_eq_bind, Option.bind_some]
    rcases exists_first_unfit hzero fraction with hall | ⟨taken, c, rest, rfl, htaken, hfull⟩
    · have hread := readFraction_append hfraction hall []
      rw [Nat.zero_add, ← digitsValue_append_eq] at hread hall
      rw [List.append_nil] at hread
      rw [hread]
      exact .exact hall
    · have hdigits : AreDigits taken := fun d hd => hfraction d (List.mem_append_left _ hd)
      have hc : c.isDigit = true := hfraction c (List.mem_append_right _ List.mem_cons_self)
      rw [readFraction_append hdigits htaken]
      rw [Nat.zero_add, ← digitsValue_append_eq] at htaken hfull ⊢
      have hnone : ¬ (taken.length < maxScale ∧
          digitsValue (whole ++ taken) * 10 + digitValue c < capacity) :=
        fun h => hfull ⟨h.2, h.1⟩
      rw [readFraction, if_neg (ne_underscore hc), hc, if_neg hnone]
      exact .rounded rfl htaken hfull
  · rw [if_neg hlarge]
    exact .large (Nat.le_of_not_lt hlarge)

/-- Digits behind a number make it larger, and each of them tenfold. -/
theorem le_digitsValue_append (whole ds : List Char) :
    digitsValue whole ≤ digitsValue (whole ++ ds) := by
  rw [digitsValue_append_eq]
  exact le_extend _ ds

theorem le_digitsValue_append_cons (whole : List Char) (c : Char) (ds : List Char) :
    digitsValue whole * 10 + digitValue c ≤ digitsValue (whole ++ c :: ds) := by
  rw [digitsValue_append_eq, extend_cons]
  exact le_extend _ ds

theorem ofDigits?_of_fits (hfraction : AreDigits fraction)
    (hfits : Fits { mantissa := digitsValue (whole ++ fraction), scale := fraction.length }) :
    ofDigits? whole fraction =
      some { mantissa := digitsValue (whole ++ fraction), scale := fraction.length } := by
  have hreads := reads_ofDigits? whole hfraction
  generalize ofDigits? whole fraction = read at hreads ⊢
  cases hreads with
  | large hlarge =>
    have hlarger := le_digitsValue_append whole fraction
    exact absurd hfits.mantissa (Nat.not_lt.mpr (Nat.le_trans hlarge hlarger))
  | exact => rfl
  | @rounded taken rest c hsplit _ hfull =>
    subst hsplit
    -- with all digits the one that does not fit would fit too
    refine absurd ⟨?_, ?_⟩ hfull
    · have hlarger := le_digitsValue_append_cons (whole ++ taken) c rest
      rw [List.append_assoc] at hlarger
      exact Nat.lt_of_le_of_lt hlarger hfits.mantissa
    · have hall : (taken ++ c :: rest).length ≤ maxScale := hfits.scale
      rw [List.length_append, List.length_cons] at hall
      show taken.length + 1 ≤ maxScale
      omega

theorem roundBy_eq_none {d : Nat} (hm : m < capacity) :
    roundBy d m scale = none ↔ 5 ≤ d ∧ m + 1 = capacity ∧ scale = 0 := by
  unfold roundBy
  by_cases hd : 5 ≤ d
  · by_cases hcarry : m + 1 < capacity
    · simp [hd, hcarry, hcarry.ne]
    · have hfull : m + 1 = capacity := by omega
      simp [hd, hfull]
  · simp [hd, hm]

theorem roundBy_eq_some {d : Nat} (hm : m < capacity) (hread : roundBy d m scale = some b) :
    b = { mantissa := m, scale } ∨ b = { mantissa := m + 1, scale } ∨
      m = capacity - 1 ∧ ∃ fewer, scale = fewer + 1 ∧
        b = { mantissa := (capacity + 4) / 10, scale := fewer } := by
  unfold roundBy at hread
  by_cases hd : 5 ≤ d
  · by_cases hcarry : m + 1 < capacity
    · simp only [hd, hcarry, if_true, Option.some.injEq] at hread
      exact Or.inr (Or.inl hread.symm)
    · have hfull : m + 1 = capacity := by omega
      cases scale with
      | zero => simp [hd, hfull] at hread
      | succ fewer =>
        simp only [hd, hfull, if_true, Nat.lt_irrefl, if_false, Nat.succ_ne_zero,
          Option.some.injEq] at hread
        exact Or.inr (Or.inr ⟨by omega, fewer, rfl, hread.symm⟩)
  · simp only [hd, if_false, hm, if_true, Option.some.injEq] at hread
    exact Or.inl hread.symm

theorem negative_of_read (hfraction : AreDigits fraction)
    (hread : ofDigits? whole fraction = some b) : b.negative = false := by
  have hreads := reads_ofDigits? whole hfraction
  rw [hread] at hreads
  generalize hb : some b = read at hreads
  cases hreads with
  | large => cases hb
  | exact => exact Option.some.inj hb ▸ rfl
  | rounded _ hfits =>
    rcases roundBy_eq_some hfits.mantissa hb.symm with rfl | rfl | ⟨-, -, -, rfl⟩ <;> rfl

/-- Reading fails on too many digits before the point, and on a five or more right behind the
largest mantissa. -/
theorem ofDigits?_eq_none (hfraction : AreDigits fraction) :
    ofDigits? whole fraction = none ↔ capacity ≤ digitsValue whole ∨
      digitsValue whole + 1 = capacity ∧ ∃ c ∈ fraction.head?, 5 ≤ digitValue c := by
  have hcapacity : 10 ≤ capacity := by decide
  have hreads := reads_ofDigits? whole hfraction
  generalize ofDigits? whole fraction = read at hreads ⊢
  cases hreads with
  | large hlarge => simp [hlarge]
  | exact hfits =>
    have hall : digitsValue (whole ++ fraction) < capacity := hfits.mantissa
    have hwhole := le_digitsValue_append whole fraction
    cases fraction with
    | nil => simp; omega
    | cons c fraction =>
      have hten := le_digitsValue_append_cons whole c fraction
      simp only [reduceCtorEq, false_iff]
      omega
  | @rounded taken rest c hsplit hfits hfull =>
    subst hsplit
    have htaken : digitsValue (whole ++ taken) < capacity := hfits.mantissa
    rw [roundBy_eq_none htaken]
    cases taken with
    | nil =>
      rw [List.append_nil] at htaken ⊢
      simp [Nat.not_le.mpr htaken, and_comm]
    | cons d taken =>
      have hten := le_digitsValue_append_cons whole d taken
      simp only [List.length_cons, Nat.add_eq_zero_iff, one_ne_zero, and_false, false_iff]
      omega

end TableView.Decimal.Bounded
