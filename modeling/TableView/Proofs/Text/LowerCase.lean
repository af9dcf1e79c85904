import TableView.Text.Lower

/-! Lower-casing leaves lower-cased text alone. -/
namespace TableView.Text

variable {c d : Char} {cs : List Char} {r s : CaseRun} {n : Nat}

/-- A character that is its own lower case. -/
def IsLower (c : Char) : Prop := lowerChar c = [c]

instance : DecidablePred IsLower := fun c => inferInstanceAs (Decidable (lowerChar c = [c]))

namespace CaseRun

/-- The lower case of the first character of a run. -/
def lowFirst (r : CaseRun) : Nat := (r.first + r.shift).toNat

def lowLast (r : CaseRun) : Nat := (r.last + r.shift).toNat

/-- No member of the one run has its lower case in the other. -/
def apart (r s : CaseRun) : Bool :=
  Nat.blt r.lowLast s.first || Nat.blt s.last r.lowFirst ||
    (s.step == 2 && (r.step == 2 || r.first == r.last) && (r.lowFirst + s.first) % 2 == 1)

theorem has_iff : r.has n = true ↔ r.first ≤ n ∧ n ≤ r.last ∧ (n - r.first) % r.step = 0 := by
  simp [has, and_assoc]

theorem has_lower (h : r.apart s = true) (h0 : 0 ≤ (r.first : Int) + r.shift)
    (hn : r.has n = true) : s.has (n + r.shift).toNat = false := by
  obtain ⟨hf, hl, hm⟩ := has_iff.mp hn
  simp only [apart, lowFirst, lowLast, Bool.or_eq_true, Bool.and_eq_true, beq_iff_eq,
    Nat.blt_eq] at h
  rw [Bool.eq_false_iff, ne_eq, has_iff]
  rintro ⟨hsf, hsl, hsm⟩
  obtain (h | h) | ⟨⟨hstep, hr⟩, hodd⟩ := h
  · omega
  · omega
  · rw [hstep] at hsm
    rcases hr with hr | hr
    · rw [hr] at hm
      omega
    · omega

end CaseRun

theorem lowerRuns_apart : (lowerRuns.all fun r => lowerRuns.all fun s => r.apart s) = true := by
  decide +kernel

/-- The dotted capital I is nobody's lower case. -/
theorem lowerRuns_image (hr : r ∈ lowerRuns) :
    0 ≤ (r.first : Int) + r.shift ∧ (0x130 < r.first + r.shift ∨ r.last + r.shift < 0x130) := by
  have : ∀ r ∈ lowerRuns, 0 ≤ (r.first : Int) + r.shift ∧
      (0x130 < r.first + r.shift ∨ r.last + r.shift < 0x130) := by decide +kernel
  exact this r hr

/-- Its own lower case has a dot of its own. -/
example : ¬ IsLower (Char.ofNat 0x130) := by decide +kernel

theorem ascii_induction {p : Char → Prop} (h : ∀ n < 128, p (Char.ofNat n)) (hc : c.toNat < 128) :
    p c :=
  Char.ofNat_toNat c ▸ h c.toNat hc

theorem toLower_ascii (hc : c.toNat < 128) :
    c.toLower.toNat < 128 ∧ c.toLower.toLower = c.toLower :=
  ascii_induction (p := fun c => c.toLower.toNat < 128 ∧ c.toLower.toLower = c.toLower)
    (by decide +kernel) hc

theorem toLower_eq_self_ascii (hc : c.toNat < 128) (h : c.toNat < 65 ∨ 90 < c.toNat) :
    c.toLower = c :=
  ascii_induction (p := fun c => (c.toNat < 65 ∨ 90 < c.toNat) → c.toLower = c)
    (by decide +kernel) hc h

theorem isLower_of_noRun (hc : c.toNat ≠ 0x130) (h : ∀ r ∈ lowerRuns, r.has c.toNat = false) :
    IsLower c := by
  unfold IsLower lowerChar
  by_cases hlt : c.toNat < 128
  · have hr : (⟨0x41, 0x5A, 1, 32⟩ : CaseRun) ∈ lowerRuns := List.Mem.head _
    have hn := h _ hr
    simp only [Bool.eq_false_iff, ne_eq, CaseRun.has_iff, Nat.mod_one, and_true] at hn
    simp [hlt, toLower_eq_self_ascii hlt (by omega)]
  · have hf : lowerRuns.find? (·.has c.toNat) = none :=
      List.find?_eq_none.mpr fun r hr => by simp [h r hr]
    simp [hlt, hc, hf]

theorem isLower_ofNat_shift (hr : r ∈ lowerRuns) (hn : r.has n = true) :
    IsLower (Char.ofNat (n + r.shift).toNat) := by
  by_cases hv : (n + r.shift).toNat.isValidChar
  · have ht : (Char.ofNat (n + r.shift).toNat).toNat = (n + r.shift).toNat := by
      unfold Char.ofNat
      rw [dif_pos hv]
      rfl
    apply isLower_of_noRun
    · rw [ht]
      have := (lowerRuns_image hr).2
      obtain ⟨hf, hl, _⟩ := CaseRun.has_iff.mp hn
      omega
    · intro s hs
      rw [ht]
      have ha := List.all_eq_true.mp (List.all_eq_true.mp lowerRuns_apart r hr) s hs
      exact CaseRun.has_lower ha (lowerRuns_image hr).1 hn
  · have hz : Char.ofNat (n + r.shift).toNat = '\x00' := by
      unfold Char.ofNat
      rw [dif_neg hv]
      rfl
    rw [hz]
    decide

theorem isLower_of_mem_lowerChar (h : d ∈ lowerChar c) : IsLower d := by
  unfold lowerChar at h
  split at h
  · next hlt =>
    obtain rfl := List.mem_singleton.mp h
    simp [IsLower, lowerChar, toLower_ascii hlt]
  · split at h
    · have : d = 'i' ∨ d = Char.ofNat 0x307 := by simpa using h
      rcases this with rfl | rfl <;> decide +kernel
    · split at h
      · next r hf =>
        obtain rfl := List.mem_singleton.mp h
        have hn := List.find?_some hf
        exact isLower_ofNat_shift (List.mem_of_find?_eq_some hf) hn
      · next hc _ hf =>
        obtain rfl := List.mem_singleton.mp h
        apply isLower_of_noRun hc
        intro r hr
        simpa using List.find?_eq_none.mp hf r hr

theorem isLower_of_mem_lowerAfter (before : List Char) (h : d ∈ lowerAfter before cs) :
    IsLower d := by
  induction cs generalizing before with
  | nil => simp [lowerAfter] at h
  | cons c rest ih =>
    simp only [lowerAfter, List.mem_append] at h
    rcases h with h | h
    · split at h
      · have : d = Char.ofNat 0x3C2 ∨ d = Char.ofNat 0x3C3 := by
          split at h
          · exact Or.inl (List.mem_singleton.mp h)
          · exact Or.inr (List.mem_singleton.mp h)
        rcases this with rfl | rfl <;> decide +kernel
      · exact isLower_of_mem_lowerChar h
    · exact ih _ h

theorem isLower_of_mem_lowered (h : d ∈ lowered cs) : IsLower d :=
  isLower_of_mem_lowerAfter [] h

/-- A capital sigma is the only character whose place matters, and it is not its own lower case. -/
theorem lowerAfter_of_isLower (before : List Char) (h : ∀ c ∈ cs, IsLower c) :
    lowerAfter before cs = cs := by
  induction cs generalizing before with
  | nil => rfl
  | cons c rest ih =>
    have hc : lowerChar c = [c] := h c List.mem_cons_self
    have hs : c.toNat ≠ 0x3A3 := by
      intro he
      have : c = Char.ofNat 0x3A3 := by rw [← he, Char.ofNat_toNat]
      subst this
      exact absurd hc (by decide +kernel)
    simp [lowerAfter, hs, hc, ih _ fun d hd => h d (List.mem_cons_of_mem _ hd)]

theorem lowered_of_isLower (h : ∀ c ∈ cs, IsLower c) : lowered cs = cs :=
  lowerAfter_of_isLower [] h

theorem lowered_lowered (cs : List Char) : lowered (lowered cs) = lowered cs :=
  lowered_of_isLower fun _ h => isLower_of_mem_lowered h

theorem lowerChar_ne_nil (c : Char) : lowerChar c ≠ [] := by
  unfold lowerChar
  split
  · simp
  · split
    · simp
    · split <;> simp

theorem lowered_ne_nil (h : cs ≠ []) : lowered cs ≠ [] := by
  cases cs with
  | nil => exact absurd rfl h
  | cons c rest =>
    simp only [lowered, lowerAfter]
    intro he
    have := (List.append_eq_nil_iff.mp he).1
    split at this
    · split at this <;> simp at this
    · exact lowerChar_ne_nil c this

/-- A way of folding case that a database and an index share; it leaves lower case alone and
deletes nothing. -/
structure CaseFolding where
  fold : List Char → List Char
  fold_fold : ∀ cs, fold (fold cs) = fold cs
  fold_of_isLower : ∀ cs, (∀ c ∈ cs, IsLower c) → fold cs = cs
  fold_ne_nil : ∀ cs, cs ≠ [] → fold cs ≠ []

namespace CaseFolding
variable (F : CaseFolding)

/-- The lower-casing of terms is such a folding. -/
def lowering : CaseFolding where
  fold := lowered
  fold_fold := lowered_lowered
  fold_of_isLower _ h := lowered_of_isLower h
  fold_ne_nil _ h := lowered_ne_nil h

def text (s : String) : String := String.ofList (F.fold s.toList)

theorem lowering_text (s : String) : lowering.text s = lower s := by rw [text, lower, lowering]

theorem text_of_isLower {s : String} (h : ∀ c ∈ s.toList, IsLower c) : F.text s = s := by
  simp [text, F.fold_of_isLower _ h]

theorem text_eq_empty_iff {s : String} : F.text s = "" ↔ s = "" := by
  constructor
  · intro h
    have hf : F.fold s.toList = [] := by simpa [text] using h
    have hs : s.toList = [] := by
      cases hs : s.toList with
      | nil => rfl
      | cons c cs => exact absurd hf (F.fold_ne_nil _ (by simp [hs]))
    simpa using hs
  · rintro rfl
    exact F.text_of_isLower (by simp)

end CaseFolding

end TableView.Text
