import TableView.Proofs.Calendar.Order
import TableView.Proofs.Text.Digits

/-! Written dates and instants are read back: a date as it was, an instant in milliseconds with what
is left below a millisecond cut off. -/
namespace TableView
open Text

namespace Date

variable {ds rest : List Char} {year : Int}

theorem readYear?_minus (rest : List Char) : readYear? ('-' :: rest) =
    (readDigits? rest.length rest).map fun (n, rest) => (-n, rest) := rfl

theorem readYear?_plus (rest : List Char) : readYear? ('+' :: rest) =
    (readDigits? rest.length rest).map fun (n, rest) => (n, rest) := rfl

theorem readYear?_digits (h : AreDigits ds) (hne : ds ≠ []) (rest : List Char) :
    readYear? (ds ++ rest) = (readDigits? 4 (ds ++ rest)).map fun (n, rest) => (n, rest) := by
  rw [readYear?, dropWhile_isBlank h hne]
  split
  · next heq =>
    obtain ⟨c, ds, rfl⟩ := List.exists_cons_of_ne_nil hne
    obtain ⟨rfl, _⟩ := List.cons.inj heq
    exact absurd (h '-' List.mem_cons_self) (by decide)
  · next heq =>
    obtain ⟨c, ds, rfl⟩ := List.exists_cons_of_ne_nil hne
    obtain ⟨rfl, _⟩ := List.cons.inj heq
    exact absurd (h '+' List.mem_cons_self) (by decide)
  · rfl

theorem readYear?_yearText (year : Int) (hrest : ∀ c ∈ rest.head?, c.isDigit = false) :
    readYear? (yearText year ++ rest) = some (year, rest) := by
  have hare := areDigits_padded 4 year.natAbs
  have hne := padded_ne_nil 4 year.natAbs
  have hsigned : readDigits? (padded 4 year.natAbs ++ rest).length (padded 4 year.natAbs ++ rest) =
      some (year.natAbs, rest) := by
    rw [readDigits?_append hare hne (by simp) (Or.inr hrest), digitsValue_padded]
  by_cases hneg : year < 0
  · rw [yearText, if_pos hneg, List.cons_append, readYear?_minus, hsigned, Option.map_some]
    simp only [Option.some.injEq, Prod.mk.injEq, and_true]
    omega
  by_cases hlong : 9999 < year
  · rw [yearText, if_neg hneg, if_pos hlong, List.cons_append, readYear?_plus, hsigned,
      Option.map_some]
    simp only [Option.some.injEq, Prod.mk.injEq, and_true]
    omega
  · have hfour : (padded 4 year.natAbs).length = 4 := length_padded (by decide) (by omega)
    rw [yearText, if_neg hneg, if_neg hlong, readYear?_digits hare hne,
      readDigits?_append hare hne hfour.le (Or.inl hfour), digitsValue_padded, Option.map_some]
    simp only [Option.some.injEq, Prod.mk.injEq, and_true]
    omega

/-- A written date is read back, whatever follows it. -/
theorem readFirst?_chars (d : Date) (rest : List Char) :
    readFirst? (d.chars ++ rest) = some (d, rest) := by
  obtain ⟨hmonth, hday⟩ := d.month_day_lt
  have hself : ofParts? d.year d.month d.day = some d := ofParts?_eq_some.mpr ⟨rfl, rfl, rfl⟩
  have hchars : d.chars ++ rest = yearText d.year ++
      ('-' :: (padded 2 d.month ++ '-' :: (padded 2 d.day ++ rest))) := by
    simp [chars]
  rw [hchars, readFirst?, readYear?_yearText _ (by simp)]
  simp [skip?, readNumber?_padded hmonth, readNumber?_padded hday, hself]

end Date

namespace Instant

theorem isClock_cut (t : Instant) :
    isClock t.hour t.minute t.second (t.nanos / 1000000 * 1000000) = true := by
  have hclock := t.clock_lt
  simp only [isClock, Bool.and_eq_true, decide_eq_true_eq]
  omega

/-- The instant at the start of its millisecond. -/
def cut (t : Instant) : Instant :=
  ⟨t.date, t.hour, t.minute, t.second, t.nanos / 1000000 * 1000000, t.isClock_cut⟩

/-- Reads an instant in milliseconds: date and clock with a `T` between. -/
def readMilli? (cs : List Char) : Option Instant := do
  let (date, rest) ← Date.readFirst? cs
  let (hour, rest) ← readNumber? (← skip? 'T' rest)
  let (minute, rest) ← readNumber? (← skip? ':' rest)
  let (second, rest) ← readNumber? (← skip? ':' rest)
  ofParts? date hour minute second (← readFraction? rest)

theorem readFraction?_padded {millis : Nat} (h : millis < 1000) :
    readFraction? ('.' :: padded 3 millis) = some (millis * 1000000) := by
  have hare := areDigits_padded 3 millis
  have hlength : (padded 3 millis).length = 3 := length_padded (by decide) h
  have htake : (padded 3 millis).take 9 = padded 3 millis := List.take_of_length_le (by omega)
  have hall : (padded 3 millis).all Char.isDigit = true := List.all_eq_true.mpr hare
  rw [readFraction?, htake, if_pos hall, nat?_of_areDigits hare (padded_ne_nil 3 _), hlength,
    digitsValue_padded]
  rfl

/-- What is written in milliseconds is read back cut to milliseconds. -/
theorem readMilli?_milliText (t : Instant) : readMilli? t.milliText.toList = some t.cut := by
  obtain ⟨hhour, hminute, hsecond, hnanos⟩ := t.clock_lt
  have hcut : ofParts? t.date t.hour t.minute t.second (t.nanos / 1000000 * 1000000) = some t.cut :=
    ofParts?_eq_some.mpr ⟨rfl, rfl, rfl, rfl, rfl⟩
  have hchars : t.milliText.toList = t.date.chars ++ ('T' :: (padded 2 t.hour ++
      ':' :: (padded 2 t.minute ++ ':' :: (padded 2 t.second ++
        '.' :: padded 3 (t.nanos / 1000000))))) := by
    simp [milliText, clockChars]
  rw [hchars, readMilli?, Date.readFirst?_chars]
  simp [skip?, readNumber?_padded (by omega : t.hour < 100),
    readNumber?_padded (by omega : t.minute < 100), readNumber?_padded (by omega : t.second < 100),
    readFraction?_padded (by omega : t.nanos / 1000000 < 1000), hcut]

end Instant
end TableView
