import TableView.Proofs.Sql.Ranges
import TableView.Proofs.Term.Period

/-! Date terms that go on from one another: each further run narrows the period, but for the very
last of a year, month, day, hour or minute. -/
namespace TableView

namespace Term
open Instant Precision

/-- The finer term names the last second of the coarser one's period, as a window, or an instant in
it that is later than its last millisecond. -/
structure Overhangs (coarse fine : String) (p q : Period) : Prop where
  coarse : (digitRuns coarse).length ≤ 5
  lastSecond : q.start.components = p.last.components
  beyond : (digitRuns fine).length = 6 ∨ 999000000 < q.start.nanos

variable {raw coarse fine : String} {p q : Period}

theorem nanos_last (h : period raw = .ok p) (hn : (digitRuns raw).length ≤ 5) :
    p.last.nanos = 999000000 := by
  have hcount := (starts_of_period h (by omega)).1
  rw [last_eq_lastMilli h hn]
  exact nanos_lastMilli (by omega)

theorem isWholeMilli_last (h : period raw = .ok p) (hn : (digitRuns raw).length ≤ 5) :
    p.last.IsWholeMilli := by
  have hcount := (starts_of_period h (by omega)).1
  refine ⟨?_, by rw [nanos_last h hn]⟩
  rw [last_eq_lastMilli h hn]
  exact notLeap_lastMilli (by omega)

theorem notLeap_last (h : period raw = .ok p) : p.last.NotLeap := by
  rcases Nat.lt_or_ge 5 (digitRuns raw).length with hfine | hcoarse
  · rcases Nat.lt_or_ge 6 (digitRuns raw).length with hpoint | hsecond
    · rw [point_of_period h hpoint]
      exact notLeap_start h
    · exact (second_of_period h (by omega)).2.2.1
  · exact (isWholeMilli_last h hcoarse).1

/-- A term that goes on from another one starts where the numbers of the other still show. -/
theorem same_start (hp : period coarse = .ok p) (hq : period fine = .ok q)
    (h : digitRuns coarse <+: digitRuns fine) (hn : (digitRuns coarse).length ≤ 6) :
    p.precision.Same q.start p.start := by
  rw [← shows_iff_same_start hp hn]
  exact (shows_start hq).shorten (prefix_spelled h hn)

theorem eq_of_take (hp : period coarse = .ok p) (hq : period fine = .ok q)
    (h : (digitRuns fine).take 7 = (digitRuns coarse).take 7) : q = p :=
  Except.ok.inj (hq.symm.trans ((period_congr h).mpr hp))

theorem eq_of_point (hp : period coarse = .ok p) (hq : period fine = .ok q)
    (h : digitRuns coarse <+: digitRuns fine) (hn : 7 ≤ (digitRuns coarse).length) : q = p := by
  obtain ⟨rest, hrest⟩ := h
  apply eq_of_take hp hq
  rw [← hrest, List.take_append_of_le_length hn]

theorem start_le_start (hp : period coarse = .ok p) (hq : period fine = .ok q)
    (h : digitRuns coarse <+: digitRuns fine) : p.start ≤ q.start := by
  rcases Nat.lt_or_ge 6 (digitRuns coarse).length with hpoint | hn
  · rw [eq_of_point hp hq h hpoint]
  · obtain ⟨hcount, hstarts⟩ := starts_of_period hp hn
    exact le_of_same (by omega) hstarts (same_start hp hq h hn)

/-- Every period of a term that goes on from a second lies in the window of that second. -/
theorem last_le_of_second (hp : period coarse = .ok p) (hq : period fine = .ok q)
    (h : digitRuns coarse <+: digitRuns fine) (hn : (digitRuns coarse).length = 6) :
    q.last ≤ p.last := by
  rcases Nat.lt_or_ge 6 (digitRuns fine).length with hpoint | hsecond
  · obtain ⟨_, _, hprecision, next, hnext, hlast⟩ := period_eq_ok_iff.mp hp
    have hp6 : p.precision = .second := by
      rw [hprecision, hn]
      rfl
    have hsame := same_start hp hq h (by omega)
    rw [hp6] at hnext hlast hsame
    obtain rfl : next = p.last := Option.some.inj hlast
    rw [point_of_period hq hpoint]
    exact (lt_next? (by decide) hnext hsame).le
  · have hruns := h.eq_of_length_le (by omega)
    rw [eq_of_take hp hq (by rw [hruns])]

/-- A start within a year, month, day, hour or minute is not later than its last millisecond, or
else in what is left of its last second. -/
theorem start_le_last_iff (hp : period coarse = .ok p) (hq : period fine = .ok q)
    (h : digitRuns coarse <+: digitRuns fine) (hn : (digitRuns coarse).length ≤ 5) :
    q.start ≤ p.last ↔
      ¬ (q.start.components = p.last.components ∧ 999000000 < q.start.nanos) := by
  have hcount := (starts_of_period hp (by omega)).1
  rw [last_eq_lastMilli hp hn]
  exact le_lastMilli_iff (by omega) (notLeap_start hq) (same_start hp hq h (by omega))

theorem last_le_of_coarse (hp : period coarse = .ok p) (hq : period fine = .ok q)
    (h : digitRuns coarse <+: digitRuns fine) (hn : (digitRuns fine).length ≤ 5) :
    q.last ≤ p.last := by
  have hcoarse : (digitRuns coarse).length ≤ 5 := h.length_le.trans hn
  have hshows := (mem_period_iff hq hn).1 (start_le_last hq) le_rfl
  have hpre := hshows.shorten (h.map Text.digitsValue)
  exact ((mem_period_iff hp hcoarse).2 (isWholeMilli_last hq hn) hpre).2

theorem last_le_iff_of_second (hp : period coarse = .ok p) (hq : period fine = .ok q)
    (h : digitRuns coarse <+: digitRuns fine) (hcoarse : (digitRuns coarse).length ≤ 5)
    (hn : (digitRuns fine).length = 6) :
    q.last ≤ p.last ↔ q.start.components ≠ p.last.components := by
  obtain ⟨hnanos, _, hleap, hstamp⟩ := second_of_period hq hn
  refine secondAfter_le_iff (notLeap_start hq) (notLeap_last hp) hleap hnanos hstamp ?_
  rw [start_le_last_iff hp hq h hcoarse]
  rintro ⟨_, hbeyond⟩
  omega

theorem last_le_last_iff (hp : period coarse = .ok p) (hq : period fine = .ok q)
    (h : digitRuns coarse <+: digitRuns fine) :
    q.last ≤ p.last ↔ ¬ Overhangs coarse fine p q := by
  -- Only years, months, days, hours and minutes end a millisecond early.
  rcases Nat.lt_or_ge 5 (digitRuns coarse).length with hfine | hcoarse
  · have hle : q.last ≤ p.last := by
      rcases Nat.lt_or_ge 6 (digitRuns coarse).length with hpoint | hsecond
      · rw [eq_of_point hp hq h hpoint]
      · exact last_le_of_second hp hq h (by omega)
    exact ⟨fun _ hover => absurd hover.coarse (by omega), fun _ => hle⟩
  rcases Nat.lt_or_ge 6 (digitRuns fine).length with hpoint | hwindow
  · rw [point_of_period hq hpoint, start_le_last_iff hp hq h hcoarse, not_iff_not]
    refine ⟨fun ⟨hsame, hbeyond⟩ => ⟨hcoarse, hsame, Or.inr hbeyond⟩, fun hover => ?_⟩
    exact ⟨hover.lastSecond, hover.beyond.resolve_left (by omega)⟩
  rcases hwindow.eq_or_lt with hsecond | hperiod
  · rw [last_le_iff_of_second hp hq h hcoarse hsecond, ne_eq, not_iff_not]
    exact ⟨fun hsame => ⟨hcoarse, hsame, Or.inl hsecond⟩, fun hover => hover.lastSecond⟩
  · have hnanos := nanos_start_eq_zero hq (by omega)
    refine ⟨fun _ hover => ?_, fun _ => last_le_of_coarse hp hq h (by omega)⟩
    rcases hover.beyond with hsecond | hbeyond <;> omega

/-- What hangs over is at most a millisecond. -/
theorem stamp_last_le (hp : period coarse = .ok p) (hq : period fine = .ok q)
    (h : digitRuns coarse <+: digitRuns fine) : q.last.stamp ≤ p.last.stamp + 1000000 := by
  by_cases hover : Overhangs coarse fine p q
  · obtain ⟨hcoarse, hsame, hbeyond⟩ := hover
    have hlast := nanos_last hp hcoarse
    have hseconds := seconds_eq_of_components hsame
    have hclock := q.start.clock_lt
    rcases Nat.lt_or_ge 6 (digitRuns fine).length with hpoint | hwindow
    · rw [point_of_period hq hpoint]
      unfold stamp
      omega
    · have hzero := nanos_start_eq_zero hq hwindow
      obtain ⟨_, _, _, hstamp⟩ := second_of_period hq (hbeyond.resolve_right (by omega))
      unfold stamp at *
      omega
  · have hle := (stamp_le_iff (notLeap_last hq) (notLeap_last hp)).mpr
      ((last_le_last_iff hp hq h).mpr hover)
    omega

/-- A term that goes on from another one starts no earlier than it and ends no later, or else hangs
over its end by a millisecond at most. On a column of timestamps it selects rows that the other one
selects, but for rows that it hangs over to. -/
theorem narrower_period (hp : period coarse = .ok p) (hq : period fine = .ok q)
    (h : digitRuns coarse <+: digitRuns fine) :
    p.start ≤ q.start ∧ (q.last ≤ p.last ↔ ¬ Overhangs coarse fine p q) ∧
      q.last.stamp ≤ p.last.stamp + 1000000 ∧
      ∀ (F : Text.CaseFolding) (caps : Sql.Capabilities) (c : ColumnData) (r : Row),
        c.kind = .datetime → ((Sql.Predicate.ofTerm c (.range q)).condition caps).truth F r = .yes →
          ((Sql.Predicate.ofTerm c (.range p)).condition caps).truth F r = .yes ∨
            Overhangs coarse fine p q ∧ ∃ t, r c.backendField = .timestamp t ∧ p.last < t := by
  have hstart := start_le_start hp hq h
  have hlast := last_le_last_iff hp hq h
  refine ⟨hstart, hlast, stamp_last_le hp hq h, fun F caps c r hc hrow => ?_⟩
  obtain ⟨t, ht, hfrom, hto⟩ := (Sql.Predicate.range_datetime hc).mp hrow
  rcases le_or_gt t p.last with hle | hlater
  · exact Or.inl ((Sql.Predicate.range_datetime hc).mpr ⟨t, ht, hstart.trans hfrom, hle⟩)
  · have hover : Overhangs coarse fine p q := by
      by_contra hnot
      exact absurd (hto.trans (hlast.mpr hnot)) (not_le_of_gt hlater)
    exact Or.inr ⟨hover, t, ht, hlater⟩

/-- The minute from half past two. -/
def halfPastTwo : Period where
  start := ⟨⟨2020, 5, 3, by decide⟩, 14, 30, 0, 0, by decide⟩
  last := ⟨⟨2020, 5, 3, by decide⟩, 14, 30, 59, 999000000, by decide⟩
  precision := .minute

theorem period_halfPastTwo : period "2020-05-03 14:30" = .ok halfPastTwo := rfl

/-- The last millisecond of a minute is in the minute. -/
theorem narrower_period_halfPastTwo :
    let instant : Period := ⟨halfPastTwo.last, halfPastTwo.last, .point⟩
    let c : ColumnData := { name := "at", backendField := "seen_at", kind := .datetime }
    let r : Row := fun _ => .timestamp halfPastTwo.last
    period "2020-05-03 14:30" = .ok halfPastTwo ∧
      period "2020-05-03 14:30:59.999" = .ok instant ∧
      digitRuns "2020-05-03 14:30" <+: digitRuns "2020-05-03 14:30:59.999" ∧
      ¬ Overhangs "2020-05-03 14:30" "2020-05-03 14:30:59.999" halfPastTwo instant ∧
      instant.last ≤ halfPastTwo.last ∧
      ((Sql.Predicate.ofTerm c (.range instant)).condition (.preset .mysql)).truth .lowering r =
        .yes ∧
      ((Sql.Predicate.ofTerm c (.range halfPastTwo)).condition (.preset .mysql)).truth .lowering r =
        .yes := by
  intro instant c r
  have hrow : ((Sql.Predicate.ofTerm c (.range instant)).condition (.preset .mysql)).truth
      .lowering r = .yes := by
    decide +kernel +revert
  have hq : period "2020-05-03 14:30:59.999" = .ok instant := rfl
  have hpre : digitRuns "2020-05-03 14:30" <+: digitRuns "2020-05-03 14:30:59.999" := by decide
  have hnot : ¬ Overhangs "2020-05-03 14:30" "2020-05-03 14:30:59.999" halfPastTwo instant :=
    fun h => absurd h.beyond (by decide)
  obtain ⟨_, hlast, _, hrows⟩ := narrower_period period_halfPastTwo hq hpre
  have hcoarse := (hrows .lowering (.preset .mysql) c r rfl hrow).resolve_right (fun h => hnot h.1)
  exact ⟨period_halfPastTwo, hq, hpre, hnot, hlast.mpr hnot, hrow, hcoarse⟩

/-- The window of a minute's last second ends with the next minute. -/
theorem second_beyond_minute :
    ¬ ∀ (coarse fine : String) (p q : Period), period coarse = .ok p → period fine = .ok q →
      digitRuns coarse <+: digitRuns fine → digitRuns coarse ≠ digitRuns fine →
      p.start ≤ q.start ∧ q.last ≤ p.last := by
  intro h
  let window : Period := {
    start := ⟨⟨2020, 5, 3, by decide⟩, 14, 30, 59, 0, by decide⟩
    last := ⟨⟨2020, 5, 3, by decide⟩, 14, 31, 0, 0, by decide⟩
    precision := .second }
  have hq : period "2020-05-03 14:30:59" = .ok window := rfl
  have hlast := (h _ _ _ _ period_halfPastTwo hq (by decide) (by decide)).2
  have hlater : ¬ window.last ≤ halfPastTwo.last := by
    rw [le_iff]
    decide
  exact hlater hlast

end Term
end TableView
