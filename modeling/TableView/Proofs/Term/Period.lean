import TableView.Proofs.Calendar.Periods
import TableView.Proofs.Term.Fraction
import TableView.Proofs.Text.Digits
import TableView.Proofs.Text.Runs

/-! Which date terms are read, and the period that each of them names. -/
namespace TableView

namespace Term

/-- The numbers of the first six runs, then the first of January and midnight for what is left. -/
def spelled (runs : List (List Char)) : List Nat :=
  (runs.take 6).map Text.digitsValue ++ [0, 1, 1, 0, 0, 0].drop runs.length

/-- The runs spell a date and time of the calendar, and the calendar goes on after the period that
they name. -/
structure NamesPeriod (runs : List (List Char)) : Prop where
  nonempty : runs ≠ []
  ascii : ∀ run ∈ runs.take 6, ∀ c ∈ run, c.isDigit = true
  valid : IsDateTime (spelled runs)
  ends : runs.length ≤ 6 → ∃ next : Instant, next.NotLeap ∧
    ∀ t : Instant, t.Shows (runs.map Text.digitsValue) → t < next

end Term

/-- A period is the one that the runs name. -/
structure Period.IsOf (p : Period) (runs : List (List Char)) : Prop where
  ordered : p.start ≤ p.last
  start : p.start.Shows (Term.spelled runs)
  within : runs.length ≤ 5 → ∀ t, p.start ≤ t → t ≤ p.last → t.Shows (runs.map Text.digitsValue)
  millis : runs.length ≤ 5 → ∀ t : Instant, t.IsWholeMilli →
    ((p.start ≤ t ∧ t ≤ p.last) ↔ t.Shows (runs.map Text.digitsValue))
  second : runs.length = 6 → p.start.nanos = 0 ∧ p.last.NotLeap ∧
    p.last.stamp = p.start.stamp + 1000000000
  point : ∀ run ∈ runs[6]?, p.last = p.start ∧ p.start.nanos = 1000 * ⌊Term.fraction run * 1000000⌋₊

namespace Term
open Instant Precision

variable {raw : String} {runs : List (List Char)} {run : List Char} {s next : Instant}
  {i default v : Nat}

/-- The number of a run, or a default where there is no such run. -/
def valueOf (runs : List (List Char)) (i default : Nat) : Nat :=
  (runs[i]?.map Text.digitsValue).getD default

theorem spelled_eq (runs : List (List Char)) : spelled runs =
    [valueOf runs 0 0, valueOf runs 1 1, valueOf runs 2 1, valueOf runs 3 0, valueOf runs 4 0,
      valueOf runs 5 0] := by
  match runs with
  | [] | [_] | [_, _] | [_, _, _] | [_, _, _, _] | [_, _, _, _, _] => rfl
  | _ :: _ :: _ :: _ :: _ :: _ :: rest => simp [spelled, valueOf]

/-- A run that is read as a number: it is not empty and has no digits of other scripts. -/
def IsNumber (run : List Char) : Prop := run ≠ [] ∧ ∀ c ∈ run, c.isDigit = true

theorem part?_eq_some : part? runs i default = some v ↔
    valueOf runs i default = v ∧ ∀ run ∈ runs[i]?, IsNumber run ∧ v < 4294967296 := by
  unfold part? valueOf
  cases runs[i]? with
  | none => simp
  | some run =>
    simp only [Option.filter_eq_some_iff, Text.nat?_eq_some, Text.AreDigits, IsNumber,
      decide_eq_true_eq, Option.map_some, Option.getD_some, Option.mem_def, Option.some.injEq,
      forall_eq']
    tauto

/-- Numbers that make an instant are never too long for a word. -/
theorem startOf?_eq_some_iff : startOf? runs = some s ↔
    (∀ i < 6, ∀ run ∈ runs[i]?, IsNumber run) ∧ s.NotLeap ∧ s.Shows (spelled runs) ∧
      s.nanos = (runs[6]?.map micros).getD 0 * 1000 := by
  simp only [startOf?, Option.bind_eq_bind, Option.bind_eq_some_iff, Option.filter_eq_some_iff,
    decide_eq_true_eq, part?_eq_some, Date.ofParts?_eq_some, ofClock?_eq_some]
  rw [spelled_eq]
  simp only [Shows, components, List.length_cons, List.length_nil, List.take_succ_cons,
    List.take_zero, List.map_cons, List.map_nil, List.cons.injEq, Int.natCast_inj, and_true]
  constructor
  · rintro ⟨_, ⟨⟨rfl, h0⟩, _⟩, _, ⟨rfl, h1⟩, _, ⟨rfl, h2⟩, _, ⟨hyear, hmonth, hday⟩, _, ⟨rfl, h3⟩,
      _, ⟨rfl, h4⟩, _, ⟨rfl, h5⟩, hleap, rfl, hhour, hminute, hsecond, hnanos⟩
    refine ⟨?_, hleap, ⟨hyear, hmonth, hday, hhour, hminute, hsecond⟩, hnanos⟩
    intro i hi run hrun
    interval_cases i
    · exact (h0 run hrun).1
    · exact (h1 run hrun).1
    · exact (h2 run hrun).1
    · exact (h3 run hrun).1
    · exact (h4 run hrun).1
    · exact (h5 run hrun).1
  · rintro ⟨hnumber, hleap, ⟨hyear, hmonth, hday, hhour, hminute, hsecond⟩, hnanos⟩
    have hdate := Date.isValid_iff.mp s.date.valid
    have hdays := (Date.daysInMonth_mem s.date.year s.date.month).2
    have hclock := s.clock_lt
    rw [lastYear] at hdate
    have hword : ∀ i < 6, ∀ v < 4294967296, ∀ run ∈ runs[i]?, IsNumber run ∧ v < 4294967296 :=
      fun i hi v hv run hrun => ⟨hnumber i hi run hrun, hv⟩
    exact ⟨_, ⟨⟨rfl, hword 0 (by omega) _ (by omega)⟩, by omega⟩,
      _, ⟨rfl, hword 1 (by omega) _ (by omega)⟩, _, ⟨rfl, hword 2 (by omega) _ (by omega)⟩,
      _, ⟨hyear, hmonth, hday⟩, _, ⟨rfl, hword 3 (by omega) _ (by omega)⟩,
      _, ⟨rfl, hword 4 (by omega) _ (by omega)⟩, _, ⟨rfl, hword 5 (by omega) _ (by omega)⟩,
      hleap, rfl, hhour, hminute, hsecond, hnanos⟩

theorem bounds?_eq_some_iff : bounds? runs = some (s, next) ↔
    startOf? runs = some s ∧ (ofCount runs.length).next? s = some next := by
  simp only [bounds?, Option.bind_eq_bind, Option.bind_eq_some_iff, Option.pure_def,
    Option.some.injEq, Prod.mk.injEq]
  constructor
  · rintro ⟨_, hs, _, hn, rfl, rfl⟩
    exact ⟨hs, hn⟩
  · rintro ⟨hs, hn⟩
    exact ⟨s, hs, next, hn, rfl, rfl⟩

/-- A term is read when its runs spell a start, something comes after the period, and one can step
back from there. -/
theorem period_eq_ok_iff {p : Period} : period raw = .ok p ↔ digitRuns raw ≠ [] ∧
    startOf? (digitRuns raw) = some p.start ∧ p.precision = ofCount (digitRuns raw).length ∧
      ∃ next, p.precision.next? p.start = some next ∧ p.precision.last? next = some p.last := by
  simp only [period]
  split
  · next h => simp [List.isEmpty_iff.mp h]
  · next h =>
    have hne : digitRuns raw ≠ [] := by simpa using h
    constructor
    · intro hp
      split at hp
      · cases hp
      · next start next hbounds =>
        obtain ⟨hstart, hnext⟩ := bounds?_eq_some_iff.mp hbounds
        split at hp
        · next last hlast =>
          obtain rfl := Except.ok.inj hp
          exact ⟨hne, hstart, rfl, next, hnext, hlast⟩
        · cases hp
    · rintro ⟨_, hstart, hprecision, next, hnext, hlast⟩
      rw [hprecision] at hnext hlast
      rw [bounds?_eq_some_iff.mpr ⟨hstart, hnext⟩]
      simp only [hlast]
      rw [← hprecision]

/-- All that can go wrong is that the term names no period. -/
theorem period_eq_error {e : TermError} (h : period raw = .error e) : e = .dateParse raw := by
  simp only [period] at h
  split at h
  · exact (Except.error.inj h).symm
  · split at h
    · exact (Except.error.inj h).symm
    · next start next hbounds =>
      obtain ⟨last, hlast⟩ := exists_last? (bounds?_eq_some_iff.mp hbounds).2
      rw [hlast] at h
      cases h

/-- No day follows the last one. -/
example : period "262142-12-31" = .error (.dateParse "262142-12-31") := by decide +kernel

theorem period_ne_overflow : period raw ≠ .error .overflow := by
  intro h
  cases period_eq_error h

theorem length_spelled (runs : List (List Char)) : (spelled runs).length = 6 := by
  rw [spelled_eq]
  rfl

theorem components_eq (hs : s.Shows (spelled runs)) :
    s.components = (spelled runs).map fun (n : Nat) => (n : Int) := by
  rw [← hs, length_spelled]
  rfl

theorem prefix_spelled {more : List (List Char)} (hpre : runs <+: more) (h : runs.length ≤ 6) :
    runs.map Text.digitsValue <+: spelled more := by
  have hsix : runs <+: more.take 6 := List.prefix_take_iff.mpr ⟨hpre, h⟩
  exact (hsix.map _).trans (List.prefix_append _ _)

theorem take_spelled (h : runs.length ≤ 6) :
    (spelled runs).take runs.length = runs.map Text.digitsValue := by
  simpa using (List.prefix_iff_eq_take.mp (prefix_spelled List.prefix_rfl h)).symm

theorem drop_spelled (h : runs.length ≤ 6) :
    (spelled runs).drop runs.length = [0, 1, 1, 0, 0, 0].drop runs.length := by
  rw [spelled, List.take_of_length_le h, List.drop_left' (by simp)]

theorem count_eq (hne : runs ≠ []) (h : runs.length ≤ 6) :
    (ofCount runs.length).count = runs.length :=
  count_ofCount (List.length_pos_iff.mpr hne) h

/-- The numbers of a term show in just the instants that share them with its start. -/
theorem shows_iff_same {t : Instant} (hne : runs ≠ []) (h : runs.length ≤ 6)
    (hs : s.Shows (spelled runs)) :
    t.Shows (runs.map Text.digitsValue) ↔ (ofCount runs.length).Same t s := by
  rw [Same, count_eq hne h, components_eq hs, ← List.map_take, take_spelled h, Shows,
    List.length_map]

theorem starts_of_shows (hne : runs ≠ []) (h : runs.length ≤ 6) (hs : s.Shows (spelled runs))
    (hnanos : s.nanos = 0) : (ofCount runs.length).Starts s := by
  refine ⟨?_, hnanos⟩
  rw [count_eq hne h, components_eq hs, ← List.map_drop, drop_spelled h, List.map_drop]
  rfl

theorem isNumber_of_digitRuns (h : ∀ run ∈ (digitRuns raw).take 6, ∀ c ∈ run, c.isDigit = true) :
    ∀ i < 6, ∀ run ∈ (digitRuns raw)[i]?, IsNumber run := by
  intro i hi run hrun
  have hmem : run ∈ digitRuns raw := List.mem_of_getElem? hrun
  refine ⟨(Text.mem_runs_iff.mp hmem).1, h run ?_⟩
  rw [List.mem_iff_getElem?]
  exact ⟨i, by rw [List.getElem?_take_of_lt hi]; exact hrun⟩

theorem ascii_of_isNumber (h : ∀ i < 6, ∀ run ∈ runs[i]?, IsNumber run) :
    ∀ run ∈ runs.take 6, ∀ c ∈ run, c.isDigit = true := by
  intro run hrun
  obtain ⟨i, hi⟩ := List.mem_iff_getElem?.mp hrun
  rw [List.getElem?_take] at hi
  split at hi
  · next hlt => exact (h i hlt run hi).2
  · cases hi

variable {p : Period}

theorem notLeap_start (h : period raw = .ok p) : p.start.NotLeap :=
  (startOf?_eq_some_iff.mp (period_eq_ok_iff.mp h).2.1).2.1

theorem shows_start (h : period raw = .ok p) : p.start.Shows (spelled (digitRuns raw)) :=
  (startOf?_eq_some_iff.mp (period_eq_ok_iff.mp h).2.1).2.2.1

theorem nanos_start (h : period raw = .ok p) :
    p.start.nanos = ((digitRuns raw)[6]?.map micros).getD 0 * 1000 :=
  (startOf?_eq_some_iff.mp (period_eq_ok_iff.mp h).2.1).2.2.2

/-- A term with fewer than seven runs has no fraction. -/
theorem nanos_start_eq_zero (h : period raw = .ok p) (hn : (digitRuns raw).length ≤ 6) :
    p.start.nanos = 0 := by
  have hnanos := nanos_start h
  rwa [List.getElem?_eq_none hn] at hnanos

theorem starts_of_period (h : period raw = .ok p) (hn : (digitRuns raw).length ≤ 6) :
    p.precision.count = (digitRuns raw).length ∧ p.precision.Starts p.start := by
  obtain ⟨hne, _, hprecision, _⟩ := period_eq_ok_iff.mp h
  rw [hprecision]
  exact ⟨count_eq hne hn, starts_of_shows hne hn (shows_start h) (nanos_start_eq_zero h hn)⟩

/-- The numbers of a term show in just the instants that share them with its start. -/
theorem shows_iff_same_start {t : Instant} (h : period raw = .ok p)
    (hn : (digitRuns raw).length ≤ 6) :
    t.Shows ((digitRuns raw).map Text.digitsValue) ↔ p.precision.Same t p.start := by
  obtain ⟨hne, _, hprecision, _⟩ := period_eq_ok_iff.mp h
  rw [hprecision]
  exact shows_iff_same hne hn (shows_start h)

theorem last_eq_lastMilli (h : period raw = .ok p) (hn : (digitRuns raw).length ≤ 5) :
    p.last = p.precision.lastMilli p.start := by
  obtain ⟨_, _, _, next, hnext, hlast⟩ := period_eq_ok_iff.mp h
  have hcount := (starts_of_period h (by omega)).1
  rw [last?_of_next? (by omega) hnext] at hlast
  exact (Option.some.inj hlast).symm

/-- The instants of a year, month, day, hour or minute are those that show its numbers. -/
theorem mem_period_iff {t : Instant} (h : period raw = .ok p) (hn : (digitRuns raw).length ≤ 5) :
    (p.start ≤ t → t ≤ p.last → t.Shows ((digitRuns raw).map Text.digitsValue)) ∧
      (t.IsWholeMilli → t.Shows ((digitRuns raw).map Text.digitsValue) →
        p.start ≤ t ∧ t ≤ p.last) := by
  obtain ⟨hcount, hstarts⟩ := starts_of_period h (by omega)
  rw [shows_iff_same_start h (by omega), last_eq_lastMilli h hn]
  exact ⟨same_of_mem (by omega) hstarts, mem_of_same (by omega) hstarts⟩

theorem second_of_period (h : period raw = .ok p) (hn : (digitRuns raw).length = 6) :
    p.start.nanos = 0 ∧ p.start < p.last ∧ p.last.NotLeap ∧
      p.last.stamp = p.start.stamp + 1000000000 := by
  obtain ⟨_, _, hprecision, next, hnext, hlast⟩ := period_eq_ok_iff.mp h
  have hnanos := nanos_start_eq_zero h (by omega)
  have hsecond : p.precision = .second := by
    rw [hprecision, hn]
    rfl
  rw [hsecond] at hnext hlast
  obtain rfl : next = p.last := Option.some.inj hlast
  have hstamp := stamp_nextSecond? (notLeap_start h) hnext
  exact ⟨hnanos, lt_next? (by decide) hnext rfl, notLeap_of_nextSecond? hnext, by omega⟩

theorem point_of_period (h : period raw = .ok p) (hn : 7 ≤ (digitRuns raw).length) :
    p.last = p.start := by
  obtain ⟨_, _, hprecision, next, hnext, hlast⟩ := period_eq_ok_iff.mp h
  rw [hprecision, ofCount_of_le hn] at hnext hlast
  exact (Option.some.inj hlast).symm.trans (Option.some.inj hnext).symm

theorem start_le_last (h : period raw = .ok p) : p.start ≤ p.last := by
  rcases Nat.lt_or_ge 5 (digitRuns raw).length with hfine | hcoarse
  · rcases Nat.lt_or_ge 6 (digitRuns raw).length with hpoint | hsecond
    · exact (point_of_period h hpoint).ge
    · exact (second_of_period h (by omega)).2.1.le
  · have hnanos := nanos_start_eq_zero h (by omega)
    have hmilli : p.start.IsWholeMilli := ⟨notLeap_start h, by rw [hnanos]⟩
    have hself := (shows_iff_same_start (t := p.start) h (by omega)).mpr rfl
    exact ((mem_period_iff h hcoarse).2 hmilli hself).2

theorem isOf_of_period (h : period raw = .ok p) : p.IsOf (digitRuns raw) where
  ordered := start_le_last h
  start := shows_start h
  within hn _ := (mem_period_iff h hn).1
  millis hn t ht := by
    have hmem := mem_period_iff (t := t) h hn
    exact ⟨fun hrange => hmem.1 hrange.1 hrange.2, hmem.2 ht⟩
  second hn := by
    obtain ⟨hnanos, _, hlast⟩ := second_of_period h hn
    exact ⟨hnanos, hlast⟩
  point run hrun := by
    have hlt : 6 < (digitRuns raw).length := (List.getElem?_eq_some_iff.mp hrun).1
    have hnanos := nanos_start h
    rw [Option.mem_def.mp hrun, Option.map_some, Option.getD_some, micros_eq_floor,
      Nat.mul_comm] at hnanos
    exact ⟨point_of_period h hlt, hnanos⟩

/-- A term is read just when its runs name a period. -/
theorem exists_period_iff : (∃ p, period raw = .ok p) ↔ NamesPeriod (digitRuns raw) := by
  constructor
  · rintro ⟨p, h⟩
    obtain ⟨hne, hstart, hprecision, next, hnext, hlast⟩ := period_eq_ok_iff.mp h
    obtain ⟨hnumber, hleap, hshows, hnanos⟩ := startOf?_eq_some_iff.mp hstart
    refine ⟨hne, ascii_of_isNumber hnumber,
      isDateTime_of_shows (length_spelled _) hleap hshows, ?_⟩
    intro hn
    have hcount := count_eq hne hn
    rw [hprecision] at hnext
    obtain ⟨later, hlater, hall⟩ := (exists_next?_iff (by omega) hleap).mp ⟨next, hnext⟩
    exact ⟨later, hlater, fun t ht => hall t ((shows_iff_same hne hn hshows).mp ht)⟩
  · rintro ⟨hne, hascii, hvalid, hends⟩
    have hmicros : ((digitRuns raw)[6]?.map micros).getD 0 * 1000 < 1000000000 := by
      cases (digitRuns raw)[6]? with
      | none => decide
      | some run =>
        have hlt := micros_lt run
        simp only [Option.map_some, Option.getD_some]
        omega
    obtain ⟨start, hshows, hleap, hnanos⟩ := exists_shows hvalid hmicros
    have hstart : startOf? (digitRuns raw) = some start :=
      startOf?_eq_some_iff.mpr ⟨isNumber_of_digitRuns hascii, hleap, hshows, hnanos⟩
    obtain ⟨next, hnext⟩ : ∃ next, (ofCount (digitRuns raw).length).next? start = some next := by
      by_cases hn : (digitRuns raw).length ≤ 6
      · obtain ⟨later, hlater, hall⟩ := hends hn
        have hcount := count_eq hne hn
        exact (exists_next?_iff (by omega) hleap).mpr
          ⟨later, hlater, fun t ht => hall t ((shows_iff_same hne hn hshows).mpr ht)⟩
      · rw [ofCount_of_le (by omega)]
        exact ⟨start, rfl⟩
    obtain ⟨last, hlast⟩ := exists_last? hnext
    exact ⟨⟨start, last, _⟩, period_eq_ok_iff.mpr ⟨hne, hstart, rfl, next, hnext, hlast⟩⟩

theorem startOf?_take (runs : List (List Char)) : startOf? (runs.take 7) = startOf? runs := by
  simp [startOf?, part?]

theorem ofCount_take (runs : List (List Char)) :
    ofCount (runs.take 7).length = ofCount runs.length := by
  rw [List.length_take]
  rcases Nat.le_total 7 runs.length with h | h
  · rw [Nat.min_eq_left h, ofCount_of_le h]
    rfl
  · rw [Nat.min_eq_right h]

/-- Only the first seven runs of a term count. -/
theorem period_congr {other : String} (h : (digitRuns other).take 7 = (digitRuns raw).take 7) :
    period other = .ok p ↔ period raw = .ok p := by
  have hnil : digitRuns other = [] ↔ digitRuns raw = [] := by
    have hother : (digitRuns other).take 7 = [] ↔ digitRuns other = [] := by simp
    rw [← hother, h]
    simp
  rw [period_eq_ok_iff, period_eq_ok_iff, ne_eq, ne_eq, hnil, ← startOf?_take, h, startOf?_take,
    ← ofCount_take (digitRuns other), h, ofCount_take]

/-- A date term never stops the query. It is read just when its runs name a period that the
calendar goes on after, and then as that period; runs after the seventh do not count. -/
theorem period_exact (raw : String) :
    Text.RunsOf Text.isDigit raw.toList (digitRuns raw) ∧ period raw ≠ .error .overflow ∧
      ((∃ p, period raw = .ok p) ↔ NamesPeriod (digitRuns raw)) ∧
      (∀ p, period raw = .ok p → p.IsOf (digitRuns raw)) ∧
      ∀ other, (digitRuns other).take 7 = (digitRuns raw).take 7 →
        ∀ p, period other = .ok p ↔ period raw = .ok p :=
  ⟨Text.runsOf_runs _ _, period_ne_overflow, exists_period_iff, fun _ => isOf_of_period,
    fun _ h _ => period_congr h⟩

end Term
end TableView
