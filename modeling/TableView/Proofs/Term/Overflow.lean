import TableView.Proofs.Decimal.Bounded
import TableView.Proofs.Term.Period
import TableView.Term.Basic

/-! The one way in which a term stops a query: a price whose cents cannot be held. -/
namespace TableView.Term

variable {raw : String}

/-- The amount that a term spells has a hundredfold out of reach. -/
def Overflows (raw : String) : Prop := ∃ d, decimal raw = .ok d ∧ d.Exceeds

theorem decimal_fits {d : Decimal.Bounded} (h : decimal raw = .ok d) : d.Fits := by
  simp only [decimal] at h
  split at h
  · exact Except.ok.inj h ▸ Decimal.Bounded.ofDigits?_fits ‹_›
  · cases h

theorem decimal_ne_overflow : decimal raw ≠ .error .overflow := by
  simp only [decimal]
  split <;> simp

theorem cents_eq_overflow : cents raw = .error .overflow ↔ Overflows raw := by
  unfold cents Overflows
  cases hd : decimal raw with
  | error e =>
    have hne : e ≠ .overflow := fun he => decimal_ne_overflow (he ▸ hd)
    simpa [bind, Except.bind] using hne
  | ok d =>
    have hnone := Decimal.Bounded.hundredfold?_eq_none (decimal_fits hd)
    simp only [bind, Except.bind, Except.ok.injEq, exists_eq_left', ← hnone]
    cases d.hundredfold? with
    | none => simp
    | some n => cases hn : Text.fit64? n <;> simp [hn]

theorem text_ne_overflow (o : SearchOptions) : text o raw ≠ .error .overflow := by
  simp only [text]
  split
  · split <;> simp
  · split
    · simp
    · split <;> simp

theorem integer_ne_overflow : integer raw ≠ .error .overflow := by
  unfold integer
  split <;> simp

theorem year_ne_overflow : year raw ≠ .error .overflow := by
  unfold year
  split
  · split <;> simp
  · simp

theorem polymorphic_ne_overflow : polymorphic raw ≠ .error .overflow := by
  unfold polymorphic
  split <;> simp

theorem map_eq_overflow {α β : Type} {x : Except TermError α} {f : α → β} :
    x.map f = .error .overflow ↔ x = .error .overflow := by
  cases x <;> simp [Except.map]

/-- Only a price can be out of range; all else that cannot be read is told apart from it. -/
theorem parse_eq_overflow (c : ColumnData) (deobfuscate : String → String) :
    parse c deobfuscate raw = .error .overflow ↔ c.kind = .price ∧ Overflows raw := by
  unfold parse
  cases hk : c.kind <;>
    simp [map_eq_overflow, cents_eq_overflow, text_ne_overflow, integer_ne_overflow,
      decimal_ne_overflow, year_ne_overflow, period_ne_overflow, polymorphic_ne_overflow]

end TableView.Term
