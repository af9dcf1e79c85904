import Mathlib.Data.List.DropRight
import TableView.Proofs.Decimal.Hundredths
import TableView.Term.Number

/-! Lenient numbers: a term is read as the numeral that its digits make with its first point, and a
second point ends it. -/
namespace TableView.Term
open Decimal (Bounded capacity)
open Decimal.Bounded (Fits ofDigits? readPlain?)
open Text (AreDigits digitValue digitsValue maxInt64)

variable {cs whole fraction : List Char} {raw raw' : String}

/-- The digits of a text. -/
def digits (cs : List Char) : List Char := cs.filter Char.isDigit

theorem areDigits_digits (cs : List Char) : AreDigits (digits cs) :=
  fun _ hc => (List.mem_filter.mp hc).2

/-- The digits and the first point, up to a second one. -/
def kept (seenPoint : Bool) : List Char → List Char
  | [] => []
  | c :: cs =>
    if c.isDigit then c :: kept seenPoint cs
    else if c != '.' then kept seenPoint cs
    else if seenPoint then []
    else c :: kept true cs

/-- The text that is read as a decimal, if anything is left: no point stands at its end, and none
without a digit in front. -/
def numeral? (raw : String) : Option (List Char) :=
  match (kept false raw.toList).rdropWhile (· == '.') with
  | [] => none
  | '.' :: cs => some ('0' :: '.' :: cs)
  | cs => some cs

theorem not_isDigit_point : ('.' : Char).isDigit = false := by decide

theorem ne_point {c : Char} (h : c.isDigit = true) : c ≠ '.' := by
  rintro rfl
  exact absurd h (by decide)

theorem kept_true (cs : List Char) : kept true cs = digits (cs.takeWhile (· != '.')) := by
  induction cs with
  | nil => rfl
  | cons c cs ih =>
    by_cases hpoint : c = '.'
    · subst hpoint
      rfl
    · by_cases hc : c.isDigit = true <;> simp [kept, digits, hpoint, hc, ih]

theorem kept_false (cs : List Char) : kept false cs = (keptDigits cs).1 ++
    if '.' ∈ cs then '.' :: (keptDigits cs).2 else [] := by
  induction cs with
  | nil => rfl
  | cons c cs ih =>
    by_cases hpoint : c = '.'
    · subst hpoint
      simp [kept, keptDigits, kept_true, digits, not_isDigit_point]
    · have hne : ¬ '.' = c := Ne.symm hpoint
      by_cases hc : c.isDigit = true <;> simp_all [kept, keptDigits]

theorem areDigits_keptDigits (cs : List Char) :
    AreDigits (keptDigits cs).1 ∧ AreDigits (keptDigits cs).2 :=
  ⟨areDigits_digits _, areDigits_digits _⟩

theorem areDigits_of_keptDigits (h : keptDigits cs = (whole, fraction)) :
    AreDigits whole ∧ AreDigits fraction := by
  have hdigits := areDigits_keptDigits cs
  rwa [h] at hdigits

theorem takeWhile_point (h : AreDigits whole) (rest : List Char) :
    (whole ++ '.' :: rest).takeWhile (· != '.') = whole ∧
      (whole ++ '.' :: rest).dropWhile (· != '.') = '.' :: rest := by
  have hinner : ∀ c ∈ whole, (c != '.') = true := fun c hc => bne_iff_ne.mpr (ne_point (h c hc))
  rw [List.takeWhile_append_of_pos hinner, List.dropWhile_append_of_pos hinner]
  simp

theorem takeWhile_no_point (h : '.' ∉ cs) :
    cs.takeWhile (· != '.') = cs ∧ cs.dropWhile (· != '.') = [] := by
  have hinner : ∀ c ∈ cs, (c != '.') = true := fun c hc =>
    bne_iff_ne.mpr fun he => h (he ▸ hc)
  exact ⟨List.takeWhile_eq_self_iff.mpr hinner, List.dropWhile_eq_nil_iff.mpr hinner⟩

theorem point_notMem (h : AreDigits whole) : '.' ∉ whole := fun hm => ne_point (h _ hm) rfl

theorem digits_eq_self (h : AreDigits whole) : digits whole = whole := List.filter_eq_self.mpr h

theorem keptDigits_eq (cs : List Char) : keptDigits cs = (digits (cs.takeWhile (· != '.')),
    digits (((cs.dropWhile (· != '.')).drop 1).takeWhile (· != '.'))) := rfl

theorem keptDigits_point (hwhole : AreDigits whole) (hfraction : AreDigits fraction) :
    keptDigits (whole ++ '.' :: fraction) = (whole, fraction) := by
  obtain ⟨htake, hdrop⟩ := takeWhile_point hwhole fraction
  rw [keptDigits_eq, htake, hdrop, List.drop_one, List.tail_cons,
    (takeWhile_no_point (point_notMem hfraction)).1, digits_eq_self hwhole,
    digits_eq_self hfraction]

theorem keptDigits_no_point (h : '.' ∉ cs) : keptDigits cs = (digits cs, []) := by
  obtain ⟨htake, hdrop⟩ := takeWhile_no_point h
  rw [keptDigits_eq, htake, hdrop]
  rfl

/-- What is kept decides the digits before and after the point. -/
theorem keptDigits_kept (cs : List Char) : keptDigits (kept false cs) = keptDigits cs := by
  obtain ⟨hwhole, hfraction⟩ := areDigits_keptDigits cs
  rw [kept_false]
  by_cases hpoint : '.' ∈ cs
  · rw [if_pos hpoint, keptDigits_point hwhole hfraction]
  · rw [if_neg hpoint, List.append_nil, keptDigits_no_point (point_notMem hwhole),
      digits_eq_self hwhole, keptDigits_no_point hpoint]

theorem rdropWhile_digits (h : AreDigits whole) : whole.rdropWhile (· == '.') = whole :=
  List.rdropWhile_eq_self_iff.mpr fun hne =>
    beq_eq_false_iff_ne.mpr (ne_point (h _ (List.getLast_mem hne))) ▸ Bool.false_ne_true

/-- What is kept without the points at its end. -/
theorem rdropWhile_kept (cs : List Char) : (kept false cs).rdropWhile (· == '.') =
    (keptDigits cs).1 ++ if (keptDigits cs).2 = [] then [] else '.' :: (keptDigits cs).2 := by
  obtain ⟨hwhole, hfraction⟩ := areDigits_keptDigits cs
  rw [kept_false]
  by_cases hpoint : '.' ∈ cs
  · rw [if_pos hpoint]
    generalize (keptDigits cs).1 = whole at hwhole ⊢
    generalize (keptDigits cs).2 = fraction at hfraction ⊢
    split
    case isTrue hempty =>
      rw [hempty, List.rdropWhile_concat_pos _ _ _ (by decide), rdropWhile_digits hwhole,
        List.append_nil]
    case isFalse hne =>
      refine List.rdropWhile_eq_self_iff.mpr fun _ => ?_
      rw [List.getLast_append_right (List.cons_ne_nil _ _), List.getLast_cons hne]
      simpa using ne_point (hfraction _ (List.getLast_mem hne))
  · rw [if_neg hpoint, List.append_nil, rdropWhile_digits hwhole, keptDigits_no_point hpoint]
    simp

/-- The numeral of a text has the digits that are kept, and a zero where none stand before the
point. -/
theorem numeral?_eq (h : keptDigits raw.toList = (whole, fraction)) : numeral? raw =
    if fraction = [] then (if whole = [] then none else some whole)
    else some ((if whole = [] then ['0'] else whole) ++ '.' :: fraction) := by
  have hwhole := (areDigits_of_keptDigits h).1
  -- a text that starts with a digit is taken as it is
  have hstart : ∀ {d : Char} (rest : List Char), d.isDigit = true →
      (match d :: rest with
        | [] => none
        | '.' :: cs => some ('0' :: '.' :: cs)
        | cs => some cs) = some (d :: rest) := by
    intro d rest hd
    split
    · contradiction
    · rename_i h
      exact absurd (List.cons.inj h).1 (ne_point hd)
    · rfl
  rw [numeral?, rdropWhile_kept, h]
  cases whole with
  | nil => by_cases hf : fraction = [] <;> simp [hf]
  | cons d ds =>
    have hd : d.isDigit = true := hwhole d List.mem_cons_self
    by_cases hf : fraction = [] <;> simp [hf, hstart _ hd]

/-- A numeral has digits, with a point among them or none. -/
inductive IsNumeral : List Char → Prop
  | whole {ds : List Char} (hds : AreDigits ds) (hne : ds ≠ []) : IsNumeral ds
  | point {ds more : List Char} (hds : AreDigits ds) (hne : ds ≠ []) (hmore : AreDigits more)
    (hinner : more ≠ []) : IsNumeral (ds ++ '.' :: more)

theorem areDigits_zero : AreDigits ['0'] := Text.areDigits_zeros 1

theorem isNumeral_of_numeral? (h : numeral? raw = some cs) : IsNumeral cs := by
  obtain ⟨⟨whole, fraction⟩, hk⟩ : ∃ p, keptDigits raw.toList = p := ⟨_, rfl⟩
  obtain ⟨hwhole, hfraction⟩ := areDigits_of_keptDigits hk
  rw [numeral?_eq hk] at h
  split at h
  case isTrue =>
    split at h
    case isTrue => cases h
    case isFalse hne => exact Option.some.inj h ▸ .whole hwhole hne
  case isFalse hf =>
    split at h
    case isTrue => exact Option.some.inj h ▸ .point areDigits_zero (by decide) hfraction hf
    case isFalse hne => exact Option.some.inj h ▸ .point hwhole hne hfraction hf

theorem readPlain?_of_span (rest : List Char) (hwhole : AreDigits whole) (hne : whole ≠ [])
    (hfraction : AreDigits (rest.drop 1))
    (hspan : (whole ++ rest).span (· != '.') = (whole, rest)) :
    readPlain? (whole ++ rest) = ofDigits? whole (rest.drop 1) := by
  obtain ⟨d, ds, rfl⟩ := List.exists_cons_of_ne_nil hne
  have hd : d.isDigit = true := hwhole d List.mem_cons_self
  have hminus : d ≠ '-' := by rintro rfl; exact absurd hd (by decide)
  have hplus : d ≠ '+' := by rintro rfl; exact absurd hd (by decide)
  have hfilter : (d :: ds).filter (fun c => c != '_') = d :: ds :=
    List.filter_eq_self.mpr fun c hc => bne_iff_ne.mpr (Decimal.Bounded.ne_underscore (hwhole c hc))
  have hall : (d :: ds).all Char.isDigit = true := List.all_eq_true.mpr hwhole
  rw [List.cons_append] at hspan ⊢
  unfold readPlain?
  simp only [List.head?_cons, Option.some.injEq, hminus, hplus, decide_false, Bool.or_false,
    Bool.false_eq_true, if_false, hspan, List.cons_append, Option.any_some, hd, Bool.not_true,
    hfilter, hall, Bool.false_and]
  cases hread : ofDigits? (d :: ds) (rest.drop 1) with
  | none => rfl
  | some b =>
    cases b
    cases Decimal.Bounded.negative_of_read hfraction hread
    rfl

theorem readPlain?_whole (hwhole : AreDigits whole) (hne : whole ≠ []) :
    readPlain? whole = ofDigits? whole [] := by
  obtain ⟨htake, hdrop⟩ := takeWhile_no_point (point_notMem hwhole)
  have hread := readPlain?_of_span [] hwhole hne (by simp [AreDigits])
    (by rw [List.append_nil, List.span_eq_takeWhile_dropWhile, htake, hdrop])
  rwa [List.append_nil] at hread

theorem readPlain?_point (hwhole : AreDigits whole) (hne : whole ≠ [])
    (hfraction : AreDigits fraction) :
    readPlain? (whole ++ '.' :: fraction) = ofDigits? whole fraction := by
  obtain ⟨htake, hdrop⟩ := takeWhile_point hwhole fraction
  exact readPlain?_of_span _ hwhole hne hfraction
    (by rw [List.span_eq_takeWhile_dropWhile, htake, hdrop])

theorem decimal_of_digits (h : keptDigits raw.toList = (whole, fraction)) : decimal raw =
    (ofDigits? whole fraction).elim (.error (.unparseable "decimal" raw)) .ok := by
  rw [decimal, h]
  dsimp only
  cases ofDigits? whole fraction <;> rfl

/-- The decimal that is read is the one that the numeral spells, and zero without a numeral. -/
theorem decimal_eq (raw : String) : decimal raw =
    match numeral? raw with
    | none => .ok Bounded.zero
    | some cs => (readPlain? cs).elim (.error (.unparseable "decimal" raw)) .ok := by
  obtain ⟨⟨whole, fraction⟩, h⟩ : ∃ p, keptDigits raw.toList = p := ⟨_, rfl⟩
  obtain ⟨hwhole, hfraction⟩ := areDigits_of_keptDigits h
  rw [decimal_of_digits h, numeral?_eq h]
  by_cases hf : fraction = [] <;> by_cases hw : whole = [] <;> simp only [hf, hw, if_true, if_false]
  · rfl
  · rw [readPlain?_whole hwhole hw]
  · -- no digits before the point and a zero are the same
    rw [readPlain?_point areDigits_zero (by decide) hfraction]
    rfl
  · rw [readPlain?_point hwhole hw hfraction]

theorem integer_eq (raw : String) : integer raw =
    if (digitsValue (digits raw.toList) : ℤ) ≤ maxInt64 then .ok (digitsValue (digits raw.toList))
    else .error (.unparseable "integer" raw) := by
  rw [integer, ← digits, Text.fit64?_natCast]
  by_cases hmax : (digitsValue (digits raw.toList) : ℤ) ≤ maxInt64 <;>
    simp only [hmax, if_true, if_false]

theorem integer_congr (h : digits raw.toList = digits raw'.toList) :
    (integer raw).toOption = (integer raw').toOption := by
  rw [integer_eq, integer_eq, h]
  split <;> rfl

theorem decimal_congr (h : kept false raw.toList = kept false raw'.toList) :
    (decimal raw).toOption = (decimal raw').toOption := by
  obtain ⟨⟨whole, fraction⟩, hraw⟩ : ∃ p, keptDigits raw.toList = p := ⟨_, rfl⟩
  have hraw' : keptDigits raw'.toList = (whole, fraction) := by
    rw [← hraw, ← keptDigits_kept, ← h, keptDigits_kept]
  rw [decimal_of_digits hraw, decimal_of_digits hraw']
  cases ofDigits? whole fraction <;> rfl

/-- The number that the kept digits spell. -/
def amount (raw : String) : ℚ :=
  (digitsValue ((keptDigits raw.toList).1 ++ (keptDigits raw.toList).2) : ℚ) /
    10 ^ (keptDigits raw.toList).2.length

theorem decimal_eq_error {e : TermError} (h : keptDigits raw.toList = (whole, fraction)) :
    decimal raw = .error e ↔ e = .unparseable "decimal" raw ∧
      (capacity ≤ digitsValue whole ∨
        digitsValue whole + 1 = capacity ∧ ∃ c ∈ fraction.head?, 5 ≤ digitValue c) := by
  rw [← Decimal.Bounded.ofDigits?_eq_none (areDigits_of_keptDigits h).2, decimal_of_digits h]
  cases ofDigits? whole fraction <;> simp [eq_comm]

theorem decimal_of_fits (h : keptDigits raw.toList = (whole, fraction))
    (hvalue : digitsValue (whole ++ fraction) < capacity)
    (hlength : fraction.length ≤ Decimal.maxScale) :
    ∃ d, decimal raw = .ok d ∧ d.value = amount raw ∧ d.scale = fraction.length := by
  have hread := Decimal.Bounded.ofDigits?_of_fits (areDigits_of_keptDigits h).2 ⟨hvalue, hlength⟩
  refine ⟨_, by rw [decimal_of_digits h, hread]; rfl, ?_, rfl⟩
  rw [Decimal.Bounded.value_eq rfl, amount, h]

/-- A whole number is what the digits of the term spell, whatever else is there. A decimal is what
the numeral spells that its digits make with the first point, up to a second one: exactly, as long
as these digits fit, and it fails only when those before the point do not, or would not after
rounding. -/
theorem numbers_read_leniently :
    (∀ raw, integer raw =
      if (digitsValue (digits raw.toList) : ℤ) ≤ maxInt64 then .ok (digitsValue (digits raw.toList))
      else .error (.unparseable "integer" raw)) ∧
    (∀ raw raw', digits raw.toList = digits raw'.toList →
      (integer raw).toOption = (integer raw').toOption) ∧
    (∀ raw raw', kept false raw.toList = kept false raw'.toList →
      (decimal raw).toOption = (decimal raw').toOption) ∧
    (∀ raw, decimal raw =
      match numeral? raw with
      | none => .ok Bounded.zero
      | some cs => (readPlain? cs).elim (.error (.unparseable "decimal" raw)) .ok) ∧
    (∀ raw cs, numeral? raw = some cs → IsNumeral cs) ∧
    ∀ raw whole fraction, keptDigits raw.toList = (whole, fraction) →
      (∀ e, decimal raw = .error e ↔ e = .unparseable "decimal" raw ∧
        (capacity ≤ digitsValue whole ∨
          digitsValue whole + 1 = capacity ∧ ∃ c ∈ fraction.head?, 5 ≤ digitValue c)) ∧
      (digitsValue (whole ++ fraction) < capacity → fraction.length ≤ Decimal.maxScale →
        ∃ d, decimal raw = .ok d ∧ d.value = amount raw ∧ d.scale = fraction.length) := by
  exact ⟨integer_eq, fun _ _ => integer_congr, fun _ _ => decimal_congr, decimal_eq,
    fun _ _ => isNumeral_of_numeral?,
    fun _ _ _ h => ⟨fun _ => decimal_eq_error h, decimal_of_fits h⟩⟩

theorem numbers_read_leniently_fee :
    (integer "no. 1,234").toOption = (integer "12.34").toOption ∧
    (decimal "$1,234.50 (net.)").toOption = (decimal "1234.50").toOption ∧
    decimal "79228162514264337593543950335.5" =
      .error (.unparseable "decimal" "79228162514264337593543950335.5") ∧
    ∃ d, decimal "$1,234.50 (net.)" = .ok d ∧ d.value = 123450 / 10 ^ 2 ∧ d.scale = 2 := by
  obtain ⟨-, hinteger, hdecimal, -, -, hread⟩ := numbers_read_leniently
  refine ⟨hinteger _ _ (by decide), hdecimal _ _ (by decide), ?_, ?_⟩
  · exact ((hread _ _ _ rfl).1 _).mpr ⟨rfl, Or.inr ⟨rfl, '5', rfl, by decide⟩⟩
  · exact (hread _ _ _ rfl).2 (by decide) (by decide)

end TableView.Term
