import TableView.Proofs.Text.Digits
import TableView.Proofs.Text.Runs

/-! Whole numbers with or without a sign, and how they are read as words of 64 bits. -/
namespace TableView.Text

variable {cs ds : List Char} {n : Int}

/-- An optional sign and at least one digit, also with zeros in front. -/
inductive Spells : List Char → Int → Prop
  | unsigned {ds : List Char} (hdigits : AreDigits ds) (hne : ds ≠ []) :
    Spells ds (Nat.ofDigitChars 10 ds 0)
  | plus {ds : List Char} (hdigits : AreDigits ds) (hne : ds ≠ []) :
    Spells ('+' :: ds) (Nat.ofDigitChars 10 ds 0)
  | minus {ds : List Char} (hdigits : AreDigits ds) (hne : ds ≠ []) :
    Spells ('-' :: ds) (-Nat.ofDigitChars 10 ds 0)

theorem fit64?_eq_some {m : Int} : fit64? m = some n ↔ m = n ∧ minInt64 ≤ n ∧ n ≤ maxInt64 := by
  unfold fit64?
  split <;> grind

/-- A text is read as a number when it spells the number and the number fits. -/
theorem int64?_eq_some : int64? cs = some n ↔ Spells cs n ∧ minInt64 ≤ n ∧ n ≤ maxInt64 := by
  unfold int64?
  split <;> simp only [Option.bind_eq_bind, Option.bind_eq_some_iff, nat?_eq_some, digitsValue_eq,
    fit64?_eq_some]
  case h_1 ds =>
    constructor
    · rintro ⟨m, ⟨⟨hne, hdigits⟩, rfl⟩, rfl, hfits⟩
      exact ⟨.minus hdigits hne, hfits⟩
    · rintro ⟨hspells, hfits⟩
      cases hspells with
      | unsigned hdigits => exact absurd (hdigits '-' List.mem_cons_self) (by decide)
      | minus hdigits hne => exact ⟨_, ⟨⟨hne, hdigits⟩, rfl⟩, rfl, hfits⟩
  case h_2 ds =>
    constructor
    · rintro ⟨m, ⟨⟨hne, hdigits⟩, rfl⟩, rfl, hfits⟩
      exact ⟨.plus hdigits hne, hfits⟩
    · rintro ⟨hspells, hfits⟩
      cases hspells with
      | unsigned hdigits => exact absurd (hdigits '+' List.mem_cons_self) (by decide)
      | plus hdigits hne => exact ⟨_, ⟨⟨hne, hdigits⟩, rfl⟩, rfl, hfits⟩
  case h_3 hminus hplus =>
    constructor
    · rintro ⟨m, ⟨⟨hne, hdigits⟩, rfl⟩, rfl, hfits⟩
      exact ⟨.unsigned hdigits hne, hfits⟩
    · rintro ⟨hspells, hfits⟩
      cases hspells with
      | unsigned hdigits hne => exact ⟨_, ⟨⟨hne, hdigits⟩, rfl⟩, rfl, hfits⟩
      | plus => exact absurd rfl (hplus _)
      | minus => exact absurd rfl (hminus _)

/-- No blank stands at either end of a number. -/
theorem Spells.trimmed_eq (h : Spells cs n) : trimmed cs = cs := by
  have hdigit : ∀ {ds : List Char}, AreDigits ds → ∀ c ∈ ds, isBlank c = false :=
    fun hdigits c hc => isBlank_of_isDigit (hdigits c hc)
  have hsign : isBlank '+' = false ∧ isBlank '-' = false := by decide
  have hall : ∀ c ∈ cs, isBlank c = false := by
    cases h with
    | unsigned hdigits => exact hdigit hdigits
    | plus hdigits => exact List.forall_mem_cons.mpr ⟨hsign.1, hdigit hdigits⟩
    | minus hdigits => exact List.forall_mem_cons.mpr ⟨hsign.2, hdigit hdigits⟩
  exact trimmed_eq_self (fun c hc => hall c (List.mem_of_mem_head? hc))
    fun c hc => hall c (List.mem_of_mem_getLast? hc)

theorem spells_toString (m : Nat) : Spells (toString m).toList m := by
  have hdigits : AreDigits (Nat.toDigits 10 m) :=
    fun _ hc => Nat.isDigit_of_mem_toDigits (by decide) (by decide) hc
  have hspells := Spells.unsigned hdigits Nat.toDigits_ne_nil
  rw [Nat.ofDigitChars_toDigits (by decide) (by decide)] at hspells
  rwa [Nat.toString_eq_repr, Nat.toList_repr]

end TableView.Text
