import TableView.Proofs.Sql.Ranges
import TableView.Proofs.Term.Period

/-! The dates that a date term selects: those that it names, and after the last second of a day the
next date too. -/
namespace TableView

/-- The first three runs, as far as there are so many, spell the year, month and day of a date. -/
@[mk_iff]
structure Date.Named (d : Date) (runs : List (List Char)) : Prop where
  year : ∀ run ∈ runs[0]?, d.year = Text.digitsValue run
  month : ∀ run ∈ runs[1]?, d.month = Text.digitsValue run
  day : ∀ run ∈ runs[2]?, d.day = Text.digitsValue run

theorem Date.Named.unique {runs : List (List Char)} {d e : Date} (hd : d.Named runs)
    (hn : 3 ≤ runs.length) (he : e.Named runs) : d = e := by
  obtain ⟨y, m, n, rest, rfl⟩ : ∃ y m n rest, runs = y :: m :: n :: rest := by
    match runs, hn with
    | y :: m :: n :: rest, _ => exact ⟨y, m, n, rest, rfl⟩
  have hyear := (hd.year y rfl).trans (he.year y rfl).symm
  have hmonth := (hd.month m rfl).trans (he.month m rfl).symm
  have hday := (hd.day n rfl).trans (he.day n rfl).symm
  exact Date.ext hyear hmonth hday

namespace Term
open Instant Precision

variable {raw : String} {runs : List (List Char)} {p : Period} {d : Date} {t : Instant}

/-- Three runs for a date, and after them a clock at the last second of the day. -/
def NamesLastSecond (runs : List (List Char)) : Prop :=
  (runs.drop 3).map Text.digitsValue = [23, 59, 59]

theorem NamesLastSecond.length (h : NamesLastSecond runs) : runs.length = 6 := by
  have hthree := congrArg List.length h
  simp only [List.length_map, List.length_drop, List.length_cons, List.length_nil] at hthree
  omega

theorem named_iff_shows :
    t.date.Named runs ↔ t.Shows ((runs.take 3).map Text.digitsValue) := by
  rw [Date.named_iff]
  match runs with
  | [] | [_] | [_, _] => simp [Shows, components]
  | _ :: _ :: _ :: _ => simp [Shows, components]

theorem named_start (h : period raw = .ok p) : p.start.date.Named (digitRuns raw) := by
  rw [named_iff_shows]
  apply (shows_start h).shorten
  have hsix : (digitRuns raw).take 3 <+: (digitRuns raw).take 6 :=
    List.prefix_take_iff.mpr ⟨List.take_prefix _ _, by simp⟩
  exact (hsix.map _).trans (List.prefix_append _ _)

theorem named_iff_eq_start (h : period raw = .ok p) (hn : 3 ≤ (digitRuns raw).length) :
    d.Named (digitRuns raw) ↔ d = p.start.date := by
  constructor
  · intro hd
    exact hd.unique hn (named_start h)
  · rintro rfl
    exact named_start h

theorem eq_midnight_of_starts {q : Precision} (hq : q.count ≤ 3) (ht : q.Starts t) :
    t = midnight t.date := by
  obtain ⟨hdrop, hnanos⟩ := ht
  have hclock := congrArg (List.drop (3 - q.count)) hdrop
  rw [List.drop_drop, List.drop_drop, Nat.add_sub_cancel' hq] at hclock
  simp only [components, List.drop_succ_cons, List.drop_zero, List.cons.injEq, Int.natCast_eq_zero,
    and_true] at hclock
  obtain ⟨hhour, hminute, hsecond⟩ := hclock
  cases t
  simp only at hhour hminute hsecond hnanos
  subst hhour hminute hsecond hnanos
  rfl

/-- A year, a month and a day are made of whole days. -/
theorem mem_dates_of_days (h : period raw = .ok p) (hn : (digitRuns raw).length ≤ 3) :
    p.start.date ≤ d ∧ d ≤ p.last.date ↔ d.Named (digitRuns raw) := by
  obtain ⟨hcount, hstarts⟩ := starts_of_period h (by omega)
  have hmidnight := eq_midnight_of_starts (by omega) hstarts
  have hmem := mem_period_iff (t := midnight d) h (by omega)
  have hmilli : (midnight d).IsWholeMilli := ⟨notLeap_of_midnight rfl, rfl⟩
  have hnamed : d.Named (digitRuns raw) ↔
      (midnight d).Shows ((digitRuns raw).map Text.digitsValue) := by
    have hshows : (midnight d).date.Named (digitRuns raw) ↔ _ := named_iff_shows
    rwa [List.take_of_length_le hn] at hshows
  rw [hnamed, ← midnight_le_iff (t := p.last)]
  constructor
  · rintro ⟨hfrom, hto⟩
    apply hmem.1 _ hto
    rw [hmidnight, midnight_le_iff]
    exact hfrom
  · intro hshows
    obtain ⟨hfrom, hto⟩ := hmem.2 hmilli hshows
    exact ⟨date_le_of_le hfrom, hto⟩

/-- A period within a day ends on the day on which it starts, but for a window. -/
theorem date_last (h : period raw = .ok p) (hn : 3 ≤ (digitRuns raw).length)
    (hsix : (digitRuns raw).length ≠ 6) : p.last.date = p.start.date := by
  rcases Nat.lt_or_ge 6 (digitRuns raw).length with hpoint | hperiod
  · rw [point_of_period h hpoint]
  · obtain ⟨hcount, _⟩ := starts_of_period h hperiod
    have hshows := (mem_period_iff h (by omega)).1 (start_le_last h) le_rfl
    rw [shows_iff_same_start h hperiod] at hshows
    exact date_eq_of_same (by omega) hshows

theorem endsDay_iff (h : period raw = .ok p) (hn : (digitRuns raw).length = 6) :
    p.start.EndsDay ↔ NamesLastSecond (digitRuns raw) := by
  have hcomponents := congrArg (List.drop 3) (components_eq (shows_start h))
  have hspelled : spelled (digitRuns raw) = (digitRuns raw).map Text.digitsValue := by
    rw [← take_spelled hn.le, hn, List.take_of_length_le (length_spelled _).le]
  rw [hspelled, ← List.map_drop, ← List.map_drop] at hcomponents
  have hclock : [p.start.hour, p.start.minute, p.start.second] =
      ((digitRuns raw).drop 3).map Text.digitsValue :=
    List.map_injective_iff.mpr Nat.cast_injective hcomponents
  unfold NamesLastSecond EndsDay
  rw [← hclock]
  simp

/-- A window ends with the next second, which is on the next date after the last one of a day. -/
theorem date_last_of_second (h : period raw = .ok p) (hn : (digitRuns raw).length = 6) :
    ¬ NamesLastSecond (digitRuns raw) ∧ p.last.date = p.start.date ∨
      NamesLastSecond (digitRuns raw) ∧ p.start.date.next? = some p.last.date := by
  obtain ⟨_, _, hprecision, next, hnext, hlast⟩ := period_eq_ok_iff.mp h
  rw [hprecision, hn] at hnext hlast
  obtain rfl : next = p.last := Option.some.inj hlast
  rw [← endsDay_iff h hn]
  exact date_nextSecond? (notLeap_start h) hnext

theorem date_last_cases (h : period raw = .ok p) (hn : 3 ≤ (digitRuns raw).length) :
    ¬ NamesLastSecond (digitRuns raw) ∧ p.last.date = p.start.date ∨
      NamesLastSecond (digitRuns raw) ∧ p.start.date.next? = some p.last.date := by
  by_cases hsix : (digitRuns raw).length = 6
  · exact date_last_of_second h hsix
  · exact Or.inl ⟨fun hlast => hsix hlast.length, date_last h hn hsix⟩

theorem mem_dates_iff (h : period raw = .ok p) :
    p.start.date ≤ d ∧ d ≤ p.last.date ↔ d.Named (digitRuns raw) ∨
      NamesLastSecond (digitRuns raw) ∧ ∃ e : Date, e.Named (digitRuns raw) ∧ e.next? = some d := by
  rcases Nat.lt_or_ge 3 (digitRuns raw).length with hclock | hdays
  · have hnamed : ∀ d : Date, d.Named (digitRuns raw) ↔ d = p.start.date := fun d =>
      named_iff_eq_start h (by omega)
    simp only [hnamed, exists_eq_left]
    rcases date_last_cases h (by omega) with ⟨hday, hdate⟩ | ⟨hday, hdate⟩
    · rw [hdate]
      simp only [hday, false_and, or_false]
      exact ge_antisymm_iff.symm
    · rw [Date.between_next? hdate, hdate]
      simp only [hday, true_and, Option.some.injEq, eq_comm]
  · have hnot : ¬ NamesLastSecond (digitRuns raw) := fun hlast => by
      have hsix := hlast.length
      omega
    simp only [hnot, false_and, or_false]
    exact mem_dates_of_days h hdays

/-- After the last second of a day comes a date that the term does not name. -/
theorem exists_unnamed (h : period raw = .ok p) (hlast : NamesLastSecond (digitRuns raw)) :
    ∃ d : Date, (p.start.date ≤ d ∧ d ≤ p.last.date) ∧ ¬ d.Named (digitRuns raw) := by
  have hsix := hlast.length
  rcases date_last_of_second h hsix with ⟨hnot, _⟩ | ⟨_, hnext⟩
  · exact absurd hlast hnot
  · have hlater := Date.lt_of_next? hnext
    refine ⟨p.last.date, ⟨hlater.le, le_rfl⟩, ?_⟩
    rw [named_iff_eq_start h (by omega)]
    exact hlater.ne'

theorem selects_date_iff (h : period raw = .ok p) {c : ColumnData} (hc : c.kind = .date)
    {F : Text.CaseFolding} {caps : Sql.Capabilities} {r : Row} :
    ((Sql.Predicate.ofTerm c (.range p)).condition caps).truth F r = .yes ↔
      ∃ d, r c.backendField = .date d ∧ (d.Named (digitRuns raw) ∨
        NamesLastSecond (digitRuns raw) ∧
          ∃ e : Date, e.Named (digitRuns raw) ∧ e.next? = some d) := by
  rw [Sql.Predicate.range_date hc]
  simp only [mem_dates_iff h]

/-- On a column of dates a term selects the dates that it names, and when it names the last second
of a day the date after it as well. So all other terms select just the dates that they name. -/
theorem selected_dates (h : period raw = .ok p) {c : ColumnData} (hc : c.kind = .date) :
    (∀ (F : Text.CaseFolding) (caps : Sql.Capabilities) (r : Row),
      ((Sql.Predicate.ofTerm c (.range p)).condition caps).truth F r = .yes ↔
        ∃ d, r c.backendField = .date d ∧ (d.Named (digitRuns raw) ∨
          NamesLastSecond (digitRuns raw) ∧
            ∃ e : Date, e.Named (digitRuns raw) ∧ e.next? = some d)) ∧
    ((∀ (F : Text.CaseFolding) (caps : Sql.Capabilities) (r : Row) (d : Date),
      r c.backendField = .date d →
        (((Sql.Predicate.ofTerm c (.range p)).condition caps).truth F r = .yes ↔
          d.Named (digitRuns raw))) ↔ ¬ NamesLastSecond (digitRuns raw)) := by
  refine ⟨fun _ _ _ => selects_date_iff h hc, ?_⟩
  constructor
  · intro hall hlast
    obtain ⟨d, hmem, hnot⟩ := exists_unnamed h hlast
    let r : Row := fun _ => .date d
    apply hnot
    rw [← hall .lowering (.preset .postgres) r d rfl, selects_date_iff h hc]
    exact ⟨d, rfl, (mem_dates_iff h).mp hmem⟩
  · intro hnot F caps r d hd
    rw [selects_date_iff h hc, hd]
    simp only [Sql.Param.date.injEq, exists_eq_left', hnot, false_and, or_false]

/-- The last second of the third of May reaches to the fourth. -/
theorem selected_dates_lastSecond :
    let raw := "2020-05-03 23:59:59"
    let third : Date := ⟨2020, 5, 3, by decide⟩
    let fourth : Date := ⟨2020, 5, 4, by decide⟩
    let window : Period :=
      { start := ⟨third, 23, 59, 59, 0, by decide⟩, last := midnight fourth, precision := .second }
    let c : ColumnData := { name := "born", backendField := "born_on", kind := .date }
    period raw = .ok window ∧ c.kind = .date ∧ NamesLastSecond (digitRuns raw) ∧
      third.Named (digitRuns raw) ∧ ¬ fourth.Named (digitRuns raw) ∧
      ((Sql.Predicate.ofTerm c (.range window)).condition (.preset .sqlite)).truth .lowering
        (fun _ => .date fourth) = .yes := by
  intro raw third fourth window c
  have hwindow : period "2020-05-03 23:59:59" = .ok window := rfl
  have hlast : NamesLastSecond (digitRuns raw) := by
    unfold NamesLastSecond
    decide
  have hthird : third.Named (digitRuns raw) := by
    rw [Date.named_iff]
    decide
  have hfourth : ¬ fourth.Named (digitRuns raw) := by
    rw [Date.named_iff]
    decide
  have hrow := ((selected_dates hwindow (c := c) rfl).1 .lowering (.preset .sqlite)
    (fun _ => .date fourth)).mpr ⟨fourth, rfl, Or.inr ⟨hlast, third, hthird, rfl⟩⟩
  exact ⟨hwindow, rfl, hlast, hthird, hfourth, hrow⟩

end Term
end TableView
