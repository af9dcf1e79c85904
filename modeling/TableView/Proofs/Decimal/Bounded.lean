import TableView.Decimal.Bounded

/-! Numbers read from digits keep within the mantissa and the scale, their hundredfold may not. -/
namespace TableView.Decimal.Bounded

variable {m n d scale : Nat} {ds whole fraction : List Char} {b : Bounded}

/-- The mantissa has 96 bits at most, and the scale 28 digits. -/
structure Fits (b : Bounded) : Prop where
  mantissa : b.mantissa < capacity
  scale : b.scale ≤ maxScale

theorem readWhole_lt (hm : m < capacity) (h : readWhole m ds = some n) : n < capacity := by
  induction ds generalizing m with
  | nil => exact Option.some.inj h ▸ hm
  | cons d ds ih =>
    simp only [readWhole] at h
    split at h
    · exact ih ‹_› h
    · cases h

theorem roundBy_fits (hm : m < capacity) (hs : scale ≤ maxScale) (h : roundBy d m scale = some b) :
    b.Fits := by
  -- a carry leaves the mantissa at most at the capacity, and then a digit is cut
  have hcarry : (if 5 ≤ d then m + 1 else m) ≤ capacity := by split <;> omega
  simp only [roundBy] at h
  generalize (if 5 ≤ d then m + 1 else m) = k at h hcarry
  split at h
  · obtain rfl := Option.some.inj h
    exact ⟨‹_›, hs⟩
  · split at h
    · cases h
    · obtain rfl := Option.some.inj h
      refine ⟨?_, Nat.le_trans (Nat.sub_le ..) hs⟩
      show (k + 4) / 10 < capacity
      unfold capacity at *
      omega

theorem readFraction_fits (hm : m < capacity) (hs : scale ≤ maxScale)
    (h : readFraction m scale ds = some b) : b.Fits := by
  induction ds generalizing m scale with
  | nil =>
    obtain rfl := Option.some.inj h
    exact ⟨hm, hs⟩
  | cons d ds ih =>
    simp only [readFraction] at h
    split at h
    · split at h
      · exact ih hm hs h
      · obtain rfl := Option.some.inj h
        exact ⟨hm, hs⟩
    · split at h
      · cases h
      · split at h
        · obtain ⟨hscale, hm⟩ := ‹scale < maxScale ∧ _›
          exact ih hm hscale h
        · exact roundBy_fits hm hs h

theorem ofDigits?_fits (h : ofDigits? whole fraction = some b) : b.Fits := by
  unfold ofDigits? at h
  obtain ⟨m, hm, h⟩ := Option.bind_eq_some_iff.mp h
  exact readFraction_fits (readWhole_lt (by decide) hm) (Nat.zero_le _) h

/-- A hundred times the number is out of reach, which takes a mantissa of full length. -/
def Exceeds (b : Bounded) : Prop :=
  (b.scale = 0 ∧ capacity ≤ b.mantissa * 100) ∨ (b.scale = 1 ∧ capacity ≤ b.mantissa * 10)

theorem hundredfold?_eq_none (hb : b.Fits) : b.hundredfold? = none ↔ b.Exceeds := by
  have hmantissa := hb.mantissa
  unfold hundredfold? Exceeds
  rcases hscale : b.scale with _ | _ | scale
  · simp
  · simp
  · have : 2 - (scale + 1 + 1) = 0 := by omega
    simp [this, hmantissa]

end TableView.Decimal.Bounded
