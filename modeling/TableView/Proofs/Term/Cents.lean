import TableView.Proofs.Term.Numeral

/-! Prices in whole cents: what is over the last cent is cut off, except that an amount with too
many digits is rounded first. -/
namespace TableView.Term
open Decimal (Bounded capacity)
open Decimal.Bounded (Keeps RaisedToHundredth hundredths ofDigits?)
open Text (digitsValue maxInt64)

variable {raw : String} {whole fraction : List Char} {d : Bounded}

/-- Rounding has raised the amount to a whole number of cents. -/
def RaisedToCent (raw : String) : Prop :=
  ∃ d, decimal raw = .ok d ∧ amount raw < d.value ∧ ∃ n : ℤ, 100 * d.value = n

/-- What becomes of a decimal: its whole cents, as far as a word holds them, unless the product with
a hundred is out of reach. -/
theorem cents_of_decimal (hd : decimal raw = .ok d) :
    cents raw = .error .overflow ∨
    cents raw = if (hundredths d.mantissa d.scale : ℤ) ≤ maxInt64 then
        .ok (hundredths d.mantissa d.scale)
      else .error (.unparseable "price" raw) := by
  by_cases hproduct : d.mantissa * Nat.pow 10 (2 - d.scale) < capacity
  · right
    have hwhole : d.hundredfold? = some (hundredths d.mantissa d.scale) := if_pos hproduct
    simp only [cents, hd, hwhole, Except.bind, bind, Text.fit64?_natCast]
    by_cases hmax : (hundredths d.mantissa d.scale : ℤ) ≤ maxInt64 <;>
      simp only [hmax, if_true, if_false]
  · left
    have hnone : d.hundredfold? = none := if_neg hproduct
    simp only [cents, hd, hnone, Except.bind, bind]

theorem floor_amount (h : keptDigits raw.toList = (whole, fraction)) :
    ⌊100 * amount raw⌋ = (hundredths (digitsValue (whole ++ fraction)) fraction.length : ℤ) := by
  rw [amount, h, Decimal.Bounded.floor_hundredths]

theorem raisedToCent_iff (h : keptDigits raw.toList = (whole, fraction)) (hd : decimal raw = .ok d)
    (hpositive : d.negative = false) : RaisedToCent raw ↔
      RaisedToHundredth (digitsValue (whole ++ fraction)) fraction.length d := by
  rw [Decimal.Bounded.raisedToHundredth_iff hpositive, RaisedToCent, amount, h, hd]
  simp

/-- An amount whose digits fit is not rounded. -/
theorem not_raisedToCent_of_fits (h : keptDigits raw.toList = (whole, fraction))
    (hvalue : digitsValue (whole ++ fraction) < capacity)
    (hlength : fraction.length ≤ Decimal.maxScale) : ¬ RaisedToCent raw := by
  obtain ⟨d, hd, hexact, -⟩ := decimal_of_fits h hvalue hlength
  rintro ⟨b, hb, hbelow, -⟩
  obtain rfl := Except.ok.inj (hd.symm.trans hb)
  exact absurd hexact hbelow.ne'

/-- A price stops the query, or is read or not read as its amount and the rounding of that have
it. -/
theorem cents_cases (raw : String) :
    cents raw = .error .overflow ∨
    (∃ c, cents raw = .ok c ∧
      (¬ RaisedToCent raw → c = ⌊100 * amount raw⌋) ∧
      (RaisedToCent raw → c = ⌊100 * amount raw⌋ + 1)) ∨
    ∃ kind, cents raw = .error (.unparseable kind raw) ∧
      (¬ RaisedToCent raw → maxInt64 < ⌊100 * amount raw⌋) ∧
      (RaisedToCent raw → maxInt64 ≤ ⌊100 * amount raw⌋) := by
  obtain ⟨⟨whole, fraction⟩, hkept⟩ : ∃ p, keptDigits raw.toList = p := ⟨_, rfl⟩
  have hdigits := (areDigits_of_keptDigits hkept).2
  have hd := decimal_of_digits hkept
  rw [floor_amount hkept]
  cases hread : ofDigits? whole fraction with
  | none =>
    rw [hread] at hd
    have hcents : cents raw = .error (.unparseable "decimal" raw) := by
      rw [cents, hd]
      rfl
    have hlarge := Decimal.Bounded.hundredths_of_none hdigits hread
    exact Or.inr (Or.inr ⟨_, hcents, fun _ => hlarge, fun _ => hlarge.le⟩)
  | some d =>
    rw [hread] at hd
    rw [raisedToCent_iff hkept hd (Decimal.Bounded.negative_of_read hdigits hread)]
    rcases cents_of_decimal hd with hcents | hcents
    · exact Or.inl hcents
    · right
      by_cases hmax : (hundredths d.mantissa d.scale : ℤ) ≤ maxInt64
      · refine Or.inl ⟨_, hcents.trans (if_pos hmax), ?_⟩
        cases Decimal.Bounded.keeps_ofDigits? hdigits hread with
        | past _ hpast => omega
        | same heq hnot => exact ⟨fun _ => by rw [heq], fun h => absurd h hnot⟩
        | raised heq hraised => exact ⟨fun h => absurd hraised h, fun _ => by rw [heq]; rfl⟩
      · refine Or.inr ⟨_, hcents.trans (if_neg hmax), ?_⟩
        cases Decimal.Bounded.keeps_ofDigits? hdigits hread with
        | past hspelled => exact ⟨fun _ => hspelled, fun _ => hspelled.le⟩
        | same heq hnot => exact ⟨fun _ => by omega, fun h => absurd h hnot⟩
        | raised heq hraised => exact ⟨fun h => absurd hraised h, fun _ => by omega⟩

/-- The cents of a price are those of the amount that the term spells, with all over the last cent
cut off, and a price cannot be read only when they are past what a word holds. Not so for an amount
just below a whole number of cents, with more digits than fit: rounding raises it to that number. -/
theorem cents_truncate (raw : String) :
    (∀ c, cents raw = .ok c →
      (¬ RaisedToCent raw → c = ⌊100 * amount raw⌋) ∧
      (RaisedToCent raw → c = ⌊100 * amount raw⌋ + 1)) ∧
    (∀ kind text, cents raw = .error (.unparseable kind text) →
      (¬ RaisedToCent raw → maxInt64 < ⌊100 * amount raw⌋) ∧
      (RaisedToCent raw → maxInt64 ≤ ⌊100 * amount raw⌋)) ∧
    ∀ whole fraction, keptDigits raw.toList = (whole, fraction) →
      digitsValue (whole ++ fraction) < capacity → fraction.length ≤ Decimal.maxScale →
        ¬ RaisedToCent raw := by
  refine ⟨fun c hc => ?_, fun kind text hc => ?_, fun _ _ => not_raisedToCent_of_fits⟩
  all_goals
    rcases cents_cases raw with h | ⟨c', h, hamount⟩ | ⟨kind', h, hamount⟩ <;>
      rw [h] at hc <;> cases hc
    exact hamount

/-- Twenty-nine nines are one digit too many: they are rounded to one. -/
theorem cents_truncate_nines :
    let nines := "0.99999999999999999999999999999"
    cents "0.999" = .ok 99 ∧ ¬ RaisedToCent "0.999" ∧ 99 = ⌊100 * amount "0.999"⌋ ∧
    cents nines = .ok 100 ∧ RaisedToCent nines ∧ 100 = ⌊100 * amount nines⌋ + 1 := by
  intro nines
  have hshort : cents "0.999" = .ok 99 := by decide
  have hlong : cents nines = .ok 100 := by decide
  have hkept : ¬ RaisedToCent "0.999" :=
    (cents_truncate "0.999").2.2 _ _ rfl (by decide) (by decide)
  have hraised : RaisedToCent nines :=
    (raisedToCent_iff (d := ⟨10 ^ 28, 28, false⟩) rfl (by decide) rfl).mpr
      ⟨by decide, by decide⟩
  exact ⟨hshort, hkept, ((cents_truncate _).1 _ hshort).1 hkept, hlong, hraised,
    ((cents_truncate _).1 _ hlong).2 hraised⟩

end TableView.Term
