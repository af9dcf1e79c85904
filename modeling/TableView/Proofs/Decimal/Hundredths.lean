import TableView.Proofs.Decimal.Reading

/-! Whole hundredths of a number: those of a decimal read from digits are those of what the digits
spell, unless rounding makes a whole hundredth of a number below it. -/
namespace TableView.Decimal.Bounded
open Text (AreDigits digitValue digitsValue digitsValue_append digitsValue_lt maxInt64)

variable {m n d scale k : Nat} {whole fraction more : List Char} {b : Bounded}

/-- The whole hundredths of `m / 10 ^ scale`. -/
def hundredths (m scale : Nat) : Nat := m * 100 / 10 ^ scale

/-- The number with the digits `n`, `scale` of them after the point, is below a decimal that has no
parts of a hundredth. -/
structure RaisedToHundredth (n scale : Nat) (b : Bounded) : Prop where
  whole : 10 ^ b.scale ∣ b.mantissa * 100
  below : n * 10 ^ b.scale < b.mantissa * 10 ^ scale

theorem digitsValue_append_div (whole : List Char) (hmore : AreDigits more) :
    digitsValue (whole ++ more) / 10 ^ more.length = digitsValue whole := by
  rw [digitsValue_append, Nat.mul_comm, Nat.mul_add_div (by positivity),
    Nat.div_eq_of_lt (digitsValue_lt hmore), Nat.add_zero]

theorem hundredths_add_two (m scale : Nat) : hundredths m (scale + 2) = m / 10 ^ scale := by
  show m * 100 / 10 ^ (scale + 2) = m / 10 ^ scale
  rw [pow_add]
  exact Nat.mul_div_mul_right m (10 ^ scale) (by decide)

theorem hundredths_mono (h : m ≤ n) (scale : Nat) : hundredths m scale ≤ hundredths n scale :=
  Nat.div_le_div_right (Nat.mul_le_mul_right _ h)

/-- Fewer digits after the point only lower a number. -/
theorem hundredths_le (n scale k : Nat) :
    hundredths (n / 10 ^ k) scale ≤ hundredths n (scale + k) := by
  unfold hundredths
  rw [Nat.add_comm, pow_add, ← Nat.div_div_eq_div_mul, Nat.mul_comm, Nat.mul_comm n]
  exact Nat.div_le_div_right (Nat.mul_div_le_mul_div_assoc ..)

/-- From the third digit after the point on digits do not count. -/
theorem hundredths_cut (n scale k : Nat) :
    hundredths n (scale + 2 + k) = hundredths (n / 10 ^ k) (scale + 2) := by
  rw [hundredths_add_two, Nat.div_div_eq_div_mul, ← pow_add, Nat.add_right_comm,
    hundredths_add_two, Nat.add_comm]

/-- A full mantissa with so few digits after the point is past what a word holds. -/
theorem hundredths_large (hm : capacity ≤ m * 10 + 10) (hscale : scale ≤ 1) :
    maxInt64 < hundredths m scale := by
  have hpow : 10 ^ scale ≤ 10 ^ 1 := Nat.pow_le_pow_right (by decide) hscale
  have hten : m * 100 / 10 ^ 1 ≤ m * 100 / 10 ^ scale := Nat.div_le_div_left hpow (by positivity)
  have hle : m * 10 ≤ hundredths m scale := by
    unfold hundredths
    omega
  unfold capacity at hm
  unfold maxInt64
  omega

/-- One more in the last place makes one more hundredth just when no parts of one are left. -/
theorem hundredths_succ (m scale : Nat) : hundredths (m + 1) (scale + 2) =
    hundredths m (scale + 2) + if 10 ^ (scale + 2) ∣ (m + 1) * 100 then 1 else 0 := by
  have hdvd : 10 ^ (scale + 2) ∣ (m + 1) * 100 ↔ 10 ^ scale ∣ m + 1 := by
    rw [pow_add]
    exact Nat.mul_dvd_mul_iff_right (by decide)
  simp only [hundredths_add_two, hdvd, Nat.succ_div]

/-- The digits `n` are cut down to as many as fit and rounded. The hundredths stay the same, unless
the rounding raises the number to a whole hundredth; numbers past what a word holds stay past it. -/
inductive Keeps (n scale : Nat) (b : Bounded) : Prop
  | past (hspelled : maxInt64 < hundredths n scale)
    (hread : maxInt64 < hundredths b.mantissa b.scale)
  | same (heq : hundredths b.mantissa b.scale = hundredths n scale)
    (hraised : ¬ RaisedToHundredth n scale b)
  | raised (heq : hundredths b.mantissa b.scale = hundredths n scale + 1)
    (hraised : RaisedToHundredth n scale b)

theorem lt_mul_of_div (hn : n / 10 ^ k = m) : m * 10 ^ k ≤ n ∧ n < (m + 1) * 10 ^ k := by
  have hpos : 0 < 10 ^ k := by positivity
  exact ⟨(Nat.le_div_iff_mul_le hpos).mp hn.ge,
    (Nat.div_lt_iff_lt_mul hpos).mp (hn ▸ Nat.lt_succ_self m)⟩

/-- Rounding down. -/
theorem keeps_cut (hn : n / 10 ^ k = m) :
    Keeps n (scale + 2 + k) { mantissa := m, scale := scale + 2 } := by
  refine .same (by rw [hundredths_cut, hn]) fun h => ?_
  have hbelow : n * 10 ^ (scale + 2) < m * 10 ^ (scale + 2 + k) := h.below
  have hle := Nat.mul_le_mul_right (10 ^ (scale + 2)) (lt_mul_of_div hn).1
  rw [pow_add _ _ k, Nat.mul_left_comm] at hbelow
  rw [Nat.mul_assoc, Nat.mul_comm (10 ^ k), Nat.mul_left_comm] at hle
  omega

/-- Rounding up. -/
theorem keeps_raise (hn : n / 10 ^ k = m) :
    Keeps n (scale + 2 + k) { mantissa := m + 1, scale := scale + 2 } := by
  have heq : hundredths (m + 1) (scale + 2) = hundredths n (scale + 2 + k) +
      if 10 ^ (scale + 2) ∣ (m + 1) * 100 then 1 else 0 := by
    rw [hundredths_succ, hundredths_cut, hn]
  by_cases hdvd : 10 ^ (scale + 2) ∣ (m + 1) * 100
  · rw [if_pos hdvd] at heq
    refine .raised heq ⟨hdvd, ?_⟩
    have hlt := Nat.mul_lt_mul_of_pos_right (lt_mul_of_div hn).2
      (show 0 < 10 ^ (scale + 2) by positivity)
    rwa [Nat.mul_assoc, ← pow_add, Nat.add_comm k] at hlt
  · rw [if_neg hdvd] at heq
    exact .same heq fun h => hdvd h.whole

/-- A carry past the capacity costs a digit. -/
theorem keeps_carry (hn : n / 10 ^ k = capacity - 1) :
    Keeps n (scale + 4 + k) { mantissa := (capacity + 4) / 10, scale := scale + 3 } := by
  refine .same ?_ fun h => ?_
  · show hundredths _ (scale + 1 + 2) = hundredths n (scale + 2 + 2 + k)
    rw [hundredths_cut, hn, hundredths_add_two, hundredths_add_two, Nat.add_comm scale 1,
      Nat.add_comm scale 2, pow_add, pow_add, ← Nat.div_div_eq_div_mul, ← Nat.div_div_eq_div_mul]
    exact congrArg (· / 10 ^ scale)
      (by decide : (capacity + 4) / 10 / 10 ^ 1 = (capacity - 1) / 10 ^ 2)
  · -- the last digit of the mantissa is a four
    have hthousand : 10 ^ 3 ∣ (capacity + 4) / 10 * 100 :=
      Nat.dvd_trans (pow_dvd_pow 10 (Nat.le_add_left 3 scale)) h.whole
    revert hthousand
    decide

/-- With so few digits after the point the mantissa is full. -/
theorem keeps_full (hfits : Fits { mantissa := m, scale }) (hscale : scale ≤ 1)
    (hfull : ¬ Fits { mantissa := m * 10 + d, scale := scale + 1 }) (hd : d < 10)
    (hn : n / 10 ^ k = m) (hread : roundBy d m scale = some b) : Keeps n (scale + k) b := by
  have hlarge : capacity ≤ m * 10 + 10 := by
    by_contra hsmall
    refine hfull ⟨?_, Nat.le_trans (Nat.succ_le_succ hscale) (by decide)⟩
    show m * 10 + d < capacity
    omega
  have hpast := hundredths_large hlarge hscale
  have hspelled : hundredths m scale ≤ hundredths n (scale + k) := hn ▸ hundredths_le n scale k
  refine .past (lt_of_lt_of_le hpast (Int.ofNat_le.mpr hspelled)) ?_
  rcases roundBy_eq_some hfits.mantissa hread with rfl | rfl | ⟨-, fewer, hfewer, rfl⟩
  · exact hpast
  · exact lt_of_lt_of_le hpast (Int.ofNat_le.mpr (hundredths_mono (Nat.le_succ m) _))
  · obtain rfl : fewer = 0 := by omega
    decide

theorem keeps_roundBy (hfits : Fits { mantissa := m, scale })
    (hfull : ¬ Fits { mantissa := m * 10 + d, scale := scale + 1 }) (hd : d < 10)
    (hn : n / 10 ^ k = m) (hread : roundBy d m scale = some b) : Keeps n (scale + k) b := by
  by_cases hscale : scale ≤ 1
  · exact keeps_full hfits hscale hfull hd hn hread
  · obtain ⟨j, rfl⟩ := Nat.exists_eq_add_of_le' (Nat.lt_of_not_le hscale)
    rcases roundBy_eq_some hfits.mantissa hread with rfl | rfl | ⟨rfl, fewer, hfewer, rfl⟩
    · exact keeps_cut hn
    · exact keeps_raise hn
    · obtain rfl : fewer = j + 1 := by omega
      have hspelled := Int.ofNat_le.mpr (hn ▸ hundredths_le n (j + 2) k)
      match j with
      | j + 2 => exact keeps_carry hn
      -- the mantissa is too large for two or three digits after the point
      | 0 => exact .past (lt_of_lt_of_le (by decide) hspelled) (by decide)
      | 1 => exact .past (lt_of_lt_of_le (by decide) hspelled) (by decide)

/-- Of what is read only a number that is rounded can have other hundredths than what is spelled. -/
theorem keeps_ofDigits? (hfraction : AreDigits fraction)
    (hread : ofDigits? whole fraction = some b) :
    Keeps (digitsValue (whole ++ fraction)) fraction.length b := by
  have hreads := reads_ofDigits? whole hfraction
  rw [hread] at hreads
  generalize hb : some b = read at hreads
  cases hreads with
  | large => cases hb
  | exact =>
    obtain rfl := Option.some.inj hb
    exact .same rfl fun h => absurd h.below (Nat.lt_irrefl _)
  | @rounded taken rest c hsplit hfits hfull =>
    subst hsplit
    have hdigits : AreDigits (c :: rest) := fun d hd => hfraction d (List.mem_append_right _ hd)
    have hcut := digitsValue_append_div (whole ++ taken) hdigits
    rw [List.append_assoc] at hcut
    rw [List.length_append]
    exact keeps_roundBy hfits hfull (Text.digitValue_lt (hdigits c List.mem_cons_self)) hcut hb.symm

/-- What cannot be read is past what a word holds. -/
theorem hundredths_of_none (hfraction : AreDigits fraction)
    (hread : ofDigits? whole fraction = none) :
    maxInt64 < hundredths (digitsValue (whole ++ fraction)) fraction.length := by
  have hle := hundredths_le (digitsValue (whole ++ fraction)) 0 fraction.length
  rw [digitsValue_append_div whole hfraction, Nat.zero_add, hundredths, pow_zero,
    Nat.div_one] at hle
  have hlarge : capacity - 1 ≤ digitsValue whole := by
    rcases (ofDigits?_eq_none hfraction).mp hread with h | ⟨h, -⟩ <;> omega
  unfold capacity at hlarge
  unfold maxInt64
  omega

theorem floor_hundredths (n scale : Nat) :
    ⌊100 * ((n : ℚ) / 10 ^ scale)⌋ = (hundredths n scale : ℤ) := by
  have hcast : 100 * ((n : ℚ) / 10 ^ scale) = ((n * 100 : ℕ) : ℤ) / ((10 ^ scale : ℕ) : ℚ) := by
    push_cast
    ring
  rw [hcast, Rat.floor_intCast_div_natCast, hundredths, Int.natCast_div]

theorem value_eq (hb : b.negative = false) : b.value = (b.mantissa : ℚ) / 10 ^ b.scale := by
  simp [value, hb]

theorem raisedToHundredth_iff (hb : b.negative = false) : RaisedToHundredth n scale b ↔
    (n : ℚ) / 10 ^ scale < b.value ∧ ∃ z : ℤ, 100 * b.value = z := by
  have hpow : ∀ k : ℕ, (0 : ℚ) < 10 ^ k := fun k => by positivity
  have hbelow : (n : ℚ) / 10 ^ scale < b.mantissa / 10 ^ b.scale ↔
      n * 10 ^ b.scale < b.mantissa * 10 ^ scale := by
    rw [div_lt_div_iff₀ (hpow _) (hpow _)]
    exact_mod_cast Iff.rfl
  have hwhole : (∃ z : ℤ, 100 * ((b.mantissa : ℚ) / 10 ^ b.scale) = z) ↔
      10 ^ b.scale ∣ b.mantissa * 100 := by
    rw [← Int.natCast_dvd_natCast]
    refine exists_congr fun z => ?_
    rw [mul_div_assoc', div_eq_iff (hpow _).ne', mul_comm (z : ℚ), mul_comm (100 : ℚ)]
    exact_mod_cast Iff.rfl
  rw [value_eq hb, hbelow, hwhole]
  exact ⟨fun h => ⟨h.below, h.whole⟩, fun h => ⟨h.2, h.1⟩⟩

end TableView.Decimal.Bounded
