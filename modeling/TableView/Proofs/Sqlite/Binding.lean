import TableView.Proofs.Calendar.TextOrder
import TableView.Proofs.Term.Period
import TableView.Sqlite.Cell

/-! Dates and instants bound as texts, which SQLite compares byte by byte: up to year 9999 that is
the order of time. -/
namespace TableView
open Text

theorem areAscii_padded (width n : Nat) : AreAscii (padded width n) :=
  (areDigits_padded width n).areAscii

namespace Date

variable {y z : Int}

theorem areAscii_chars (d : Date) : AreAscii d.chars := by
  have hyear : AreAscii (yearText d.year) := by
    unfold yearText
    split
    · exact (areAscii_padded 4 _).cons (by decide)
    split
    · exact (areAscii_padded 4 _).cons (by decide)
    · exact areAscii_padded 4 _
  exact (hyear.append ((areAscii_padded 2 _).cons (by decide))).append
    ((areAscii_padded 2 _).cons (by decide))

theorem inTextOrder_comm : InTextOrder y z ↔ InTextOrder z y := by
  unfold InTextOrder
  omega

theorem inTextOrder_self (y : Int) : InTextOrder y y := by
  unfold InTextOrder
  omega

/-- Texts that follow the order of time, or else the opposite order of years, show whether the years
are in the order of their texts. -/
theorem inTextOrder_iff {α : Type} [LinearOrder α] {a b : α} {before : Prop}
    (hyears : y ≠ z → (a ≤ b ↔ y < z))
    (hbefore : before ↔ InTextOrder z y ∧ b < a ∨ ¬ InTextOrder z y ∧ y < z) :
    (a ≤ b ↔ ¬ before) ↔ InTextOrder y z := by
  rw [hbefore, inTextOrder_comm (y := z)]
  by_cases horder : InTextOrder y z
  · simp only [horder, true_and, not_true_eq_false, false_and, or_false, not_lt]
  · have hne : y ≠ z := fun heq => horder (heq ▸ inTextOrder_self y)
    simp only [horder, false_and, not_false_eq_true, true_and, false_or, iff_false]
    rw [hyears hne]
    tauto

end Date

namespace Instant

theorem areAscii_chars (t : Instant) : AreAscii t.chars := by
  have hfraction : AreAscii (fraction t.nanos) := by
    unfold fraction
    split
    · exact List.forall_mem_nil _
    split
    · exact (areAscii_padded 3 _).cons (by decide)
    split
    · exact (areAscii_padded 6 _).cons (by decide)
    · exact (areAscii_padded 9 _).cons (by decide)
  have hclock : AreAscii t.clockChars :=
    ((areAscii_padded 2 _).append ((areAscii_padded 2 _).cons (by decide))).append
      ((areAscii_padded 2 _).cons (by decide))
  exact (t.date.areAscii_chars.append (hclock.cons (by decide))).append hfraction

end Instant

namespace Sqlite.Cell

variable {t u : Instant} {d e : Date}

/-- Texts are compared by their bytes. -/
def NotAfter : Cell → Cell → Prop
  | text a, text b => ¬ BytesBefore b a
  | _, _ => False

theorem notAfter_date :
    NotAfter (ofParam (.date d)) (ofParam (.date e)) ↔ ¬ Before e.chars d.chars :=
  not_congr (bytesBefore_iff e.areAscii_chars d.areAscii_chars)

theorem notAfter_timestamp :
    NotAfter (ofParam (.timestamp t)) (ofParam (.timestamp u)) ↔ ¬ Before u.chars t.chars :=
  not_congr (bytesBefore_iff u.areAscii_chars t.areAscii_chars)

theorem date_inTextOrder (hd : 0 ≤ d.year) (he : 0 ≤ e.year) :
    (d ≤ e ↔ NotAfter (ofParam (.date d)) (ofParam (.date e))) ↔
      Date.InTextOrder d.year e.year := by
  have hbefore := Date.before_chars (x := []) (y := []) he hd
  simp only [List.append_nil, before_irrefl, and_false, or_false] at hbefore
  rw [notAfter_date]
  refine Date.inTextOrder_iff (fun hne => ?_) hbefore
  rw [Date.le_iff]
  omega

theorem timestamp_inTextOrder (ht : 0 ≤ t.date.year) (hu : 0 ≤ u.date.year) :
    (t ≤ u ↔ NotAfter (ofParam (.timestamp t)) (ofParam (.timestamp u))) ↔
      Date.InTextOrder t.date.year u.date.year := by
  rw [notAfter_timestamp]
  refine Date.inTextOrder_iff (fun hne => ?_) (Instant.before_chars hu ht)
  rw [Instant.le_iff]
  omega

theorem notAfter_self (s : String) : NotAfter (ofString s) (ofString s) :=
  List.lex_irrefl (fun byte => Nat.lt_irrefl byte.toNat) _

/-- One text for two values would put both in order or neither. -/
theorem eq_of_same_text {α : Type} [LinearOrder α] {a b : α} {ordered : Prop} {cell : Cell}
    (hself : NotAfter cell cell) (hab : (a ≤ b ↔ NotAfter cell cell) ↔ ordered)
    (hba : (b ≤ a ↔ NotAfter cell cell) ↔ ordered) : a = b := by
  by_cases horder : ordered
  · exact le_antisymm ((hab.mpr horder).mpr hself) ((hba.mpr horder).mpr hself)
  · have hnot : ¬ a ≤ b := fun hle => horder (hab.mp (iff_of_true hle hself))
    have hnot' : ¬ b ≤ a := fun hle => horder (hba.mp (iff_of_true hle hself))
    exact absurd (le_total a b) (not_or.mpr ⟨hnot, hnot'⟩)

theorem eq_of_date (hd : 0 ≤ d.year) (he : 0 ≤ e.year)
    (h : ofParam (.date d) = ofParam (.date e)) : d = e := by
  have hde := date_inTextOrder hd he
  have hed := date_inTextOrder he hd
  rw [h] at hde hed
  rw [Date.inTextOrder_comm] at hed
  exact eq_of_same_text (notAfter_self e.text) hde hed

theorem eq_of_timestamp (ht : 0 ≤ t.date.year) (hu : 0 ≤ u.date.year)
    (h : ofParam (.timestamp t) = ofParam (.timestamp u)) : t = u := by
  have htu := timestamp_inTextOrder ht hu
  have hut := timestamp_inTextOrder hu ht
  rw [h] at htu hut
  rw [Date.inTextOrder_comm] at hut
  exact eq_of_same_text (notAfter_self u.text) htu hut

end Sqlite.Cell

namespace Term

variable {raw : String} {p : Period} {t u : Instant}

/-- The first or the last instant of the period of a date term. -/
def IsBound (t : Instant) : Prop := ∃ raw p, period raw = .ok p ∧ (t = p.start ∨ t = p.last)

theorem year_start_nonneg (h : period raw = .ok p) : 0 ≤ p.start.date.year := by
  have hcomponents := components_eq (shows_start h)
  rw [spelled_eq, List.map_cons] at hcomponents
  obtain ⟨hyear, _⟩ := List.cons.inj hcomponents
  rw [hyear]
  exact Int.natCast_nonneg _

theorem IsBound.year_nonneg (h : IsBound t) : 0 ≤ t.date.year := by
  obtain ⟨raw, p, hp, rfl | rfl⟩ := h
  · exact year_start_nonneg hp
  · have hstart := year_start_nonneg hp
    have hle := Instant.le_iff.mp (start_le_last hp)
    omega

/-- The bounds of date terms and their dates, bound as texts, are in the order of time just as long
as their years are in the order of their texts. Different bounds have different texts. -/
theorem texts_of_bounds (ht : IsBound t) (hu : IsBound u) :
    ((t ≤ u ↔ (Sqlite.Cell.ofParam (.timestamp t)).NotAfter (.ofParam (.timestamp u))) ↔
        Date.InTextOrder t.date.year u.date.year) ∧
      ((t.date ≤ u.date ↔ (Sqlite.Cell.ofParam (.date t.date)).NotAfter (.ofParam (.date u.date))) ↔
        Date.InTextOrder t.date.year u.date.year) ∧
      (Sqlite.Cell.ofParam (.timestamp t) = .ofParam (.timestamp u) → t = u) ∧
      (Sqlite.Cell.ofParam (.date t.date) = .ofParam (.date u.date) → t.date = u.date) := by
  have hyear := ht.year_nonneg
  have hyear' := hu.year_nonneg
  refine ⟨?_, ?_, ?_, ?_⟩
  · exact Sqlite.Cell.timestamp_inTextOrder hyear hyear'
  · exact Sqlite.Cell.date_inTextOrder hyear hyear'
  · exact Sqlite.Cell.eq_of_timestamp hyear hyear'
  · exact Sqlite.Cell.eq_of_date hyear hyear'

/-- The first text with a sign comes before all those of the year before. -/
theorem texts_of_bounds_sign :
    let last : Instant := ⟨⟨9999, 12, 31, by decide⟩, 23, 59, 59, 999000000, by decide⟩
    let first := Instant.midnight ⟨10000, 1, 1, by decide⟩
    IsBound last ∧ IsBound first ∧ last ≤ first ∧
      ¬ (Sqlite.Cell.ofParam (.timestamp last)).NotAfter (.ofParam (.timestamp first)) ∧
      ¬ (Sqlite.Cell.ofParam (.date last.date)).NotAfter (.ofParam (.date first.date)) := by
  intro last first
  have hlast : IsBound last := ⟨"9999", _, rfl, Or.inr rfl⟩
  have hfirst : IsBound first := ⟨"10000", _, rfl, Or.inl rfl⟩
  have hle : last ≤ first := Instant.le_iff.mpr (Or.inl (by decide))
  have hsign : ¬ Date.InTextOrder last.date.year first.date.year :=
    (Date.not_inTextOrder_of_sign (n := 9999) (m := 10000) (by decide) (by decide)).1
  obtain ⟨htime, hdate, _⟩ := texts_of_bounds hlast hfirst
  refine ⟨hlast, hfirst, hle, ?_, ?_⟩
  · intro hnot
    exact hsign (htime.mp (iff_of_true hle hnot))
  · intro hnot
    exact hsign (hdate.mp (iff_of_true (Instant.date_le_of_le hle) hnot))

end Term
end TableView
