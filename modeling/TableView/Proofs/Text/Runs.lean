import Mathlib.Data.List.Basic
import Mathlib.Data.List.TakeWhile
import TableView.Text.Blank

/-! The parts between separators and the maximal runs of a text. -/
namespace TableView.Text

variable {p : Char → Bool} {c : Char} {cs xs ys part before after : List Char}

/-- A stretch of characters that satisfy `p`, with no such character right before or after it. -/
def IsRun (p : Char → Bool) (cs part : List Char) : Prop :=
  part ≠ [] ∧ (∀ c ∈ part, p c = true) ∧
    ∃ before after, cs = before ++ part ++ after ∧
      (∀ c ∈ before.getLast?, p c = false) ∧ ∀ c ∈ after.head?, p c = false

/-- A text has these maximal runs of characters that satisfy `p`, in this order. -/
inductive RunsOf (p : Char → Bool) : List Char → List (List Char) → Prop
  | nil {gap : List Char} : (∀ c ∈ gap, p c = false) → RunsOf p gap []
  | cons (gap : List Char) {run rest : List Char} {runs : List (List Char)} :
    (∀ c ∈ gap, p c = false) → run ≠ [] → (∀ c ∈ run, p c = true) →
    (∀ c ∈ rest.head?, p c = false) → RunsOf p rest runs →
    RunsOf p (gap ++ run ++ rest) (run :: runs)

theorem parts_eq_splitOnP (p : Char → Bool) (cs : List Char) : parts p cs = cs.splitOnP p := by
  induction cs with
  | nil => rfl
  | cons c rest ih =>
    rw [parts, List.splitOnP_cons_eq_if_modifyHead, ← ih]
    split
    · rfl
    · cases hrest : parts p rest with
      | nil => exact absurd hrest (parts_ne_nil p rest)
      | cons part others => rfl

theorem parts_of_forall (h : ∀ c ∈ cs, p c = false) : parts p cs = [cs] := by
  rw [parts_eq_splitOnP]
  exact List.splitOnP_eq_singleton h

theorem parts_append_cons (hc : p c = true) (xs ys : List Char) :
    parts p (xs ++ c :: ys) = parts p xs ++ parts p ys := by
  simp only [parts_eq_splitOnP, List.splitOnP_append_cons xs ys hc]

/-- Every text is one part, or a part, a separator and a shorter text. -/
theorem parts_induction {motive : List Char → Prop}
    (single : ∀ cs, (∀ c ∈ cs, p c = false) → motive cs)
    (separated : ∀ xs c ys, (∀ d ∈ xs, p d = false) → p c = true → motive ys →
      motive (xs ++ c :: ys)) (cs : List Char) : motive cs := by
  suffices h : ∀ cs xs, (∀ d ∈ xs, p d = false) → motive (xs ++ cs) from h cs [] (by simp)
  clear cs
  intro cs
  induction cs with
  | nil =>
    intro xs hxs
    simpa using single xs hxs
  | cons c rest ih =>
    intro xs hxs
    cases hc : p c with
    | true => exact separated xs c rest hxs hc (ih [] (by simp))
    | false =>
      rw [List.append_cons]
      apply ih
      intro d hd
      rcases List.mem_append.mp hd with hd | hd
      · exact hxs d hd
      · exact List.mem_singleton.mp hd ▸ hc

theorem mem_parts_iff : part ∈ parts p cs ↔
    (∀ c ∈ part, p c = false) ∧ ∃ before after, cs = before ++ part ++ after ∧
      (∀ c ∈ before.getLast?, p c = true) ∧ ∀ c ∈ after.head?, p c = true := by
  constructor
  · intro h
    induction cs using parts_induction (p := p) with
    | single cs hcs =>
      obtain rfl : part = cs := by simpa [parts_of_forall hcs] using h
      exact ⟨hcs, [], [], by simp⟩
    | separated xs c ys hxs hc ih =>
      rw [parts_append_cons hc, parts_of_forall hxs, List.singleton_append] at h
      rcases List.mem_cons.mp h with rfl | h
      · exact ⟨hxs, [], c :: ys, by simp [hc]⟩
      · obtain ⟨hpart, before, after, rfl, hbefore, hafter⟩ := ih h
        refine ⟨hpart, xs ++ c :: before, after, by simp, ?_, hafter⟩
        intro d hd
        rw [List.getLast?_append_cons, List.getLast?_cons] at hd
        cases hb : before.getLast? with
        | none => simp_all
        | some e => simp_all
  · rintro ⟨hpart, before, after, rfl, hbefore, hafter⟩
    have hrest : part ∈ parts p (part ++ after) := by
      cases after with
      | nil => simp [parts_of_forall hpart]
      | cons c after => simp [parts_append_cons (hafter c rfl), parts_of_forall hpart]
    rcases List.eq_nil_or_concat' before with rfl | ⟨front, c, rfl⟩
    · simpa using hrest
    · have hc : p c = true := hbefore c (by simp)
      simp [parts_append_cons hc, hrest]

theorem mem_runs_iff : part ∈ runs p cs ↔ IsRun p cs part := by
  simp only [runs, List.mem_filter, mem_parts_iff, Bool.not_eq_eq_eq_not, Bool.not_false,
    Bool.not_true, List.isEmpty_eq_false_iff, IsRun]
  constructor
  · rintro ⟨⟨hpart, around⟩, hne⟩
    exact ⟨hne, hpart, around⟩
  · rintro ⟨hne, hpart, around⟩
    exact ⟨⟨hpart, around⟩, hne⟩

theorem runs_append_cons (hc : p c = false) (xs ys : List Char) :
    runs p (xs ++ c :: ys) = runs p xs ++ runs p ys := by
  rw [runs, parts_append_cons (by simp [hc]), List.filter_append]
  rfl

theorem RunsOf.cons_gap {rs : List (List Char)} (hc : p c = false) (h : RunsOf p cs rs) :
    RunsOf p (c :: cs) rs := by
  have hgap {gap : List Char} (hg : ∀ d ∈ gap, p d = false) : ∀ d ∈ c :: gap, p d = false := by
    intro d hd
    rcases List.mem_cons.mp hd with rfl | hd
    · exact hc
    · exact hg d hd
  cases h with
  | nil hg => exact .nil (hgap hg)
  | cons gap hg hne hrun hrest h => exact .cons (c :: gap) (hgap hg) hne hrun hrest h

theorem runsOf_runs (p : Char → Bool) (cs : List Char) : RunsOf p cs (runs p cs) := by
  have hwhole {xs : List Char} (hxs : ∀ d ∈ xs, (!p d) = false) :
      runs p xs = [xs].filter fun run => !run.isEmpty := by
    rw [runs, parts_of_forall hxs]
  induction cs using parts_induction (p := fun c => !p c) with
  | single cs hcs =>
    rw [hwhole hcs]
    cases cs with
    | nil => exact .nil (by simp)
    | cons c cs =>
      have h : RunsOf p ([] ++ (c :: cs) ++ []) [c :: cs] :=
        .cons [] (by simp) (by simp) (by simpa using hcs) (by simp) (.nil (by simp))
      simpa using h
  | separated xs c ys hxs hc ih =>
    have hc' : p c = false := by simpa using hc
    have hrest := ih.cons_gap hc'
    rw [runs_append_cons hc', hwhole hxs]
    cases xs with
    | nil => exact hrest
    | cons x xs =>
      exact .cons [] (by simp) (by simp) (by simpa using hxs) (by simp [hc']) hrest

/-- The runs hold all characters that satisfy `p`, in their order. -/
theorem flatten_runs (p : Char → Bool) (cs : List Char) : (runs p cs).flatten = cs.filter p := by
  rw [runs, List.flatten_filter_not_isEmpty]
  induction cs using parts_induction (p := fun c => !p c) with
  | single cs hcs =>
    have hp : ∀ c ∈ cs, p c = true := by simpa using hcs
    rw [parts_of_forall hcs, List.filter_eq_self.mpr hp, List.flatten_singleton]
  | separated xs c ys hxs hc ih =>
    have hp : ∀ c ∈ xs, p c = true := by simpa using hxs
    have hc' : p c = false := by simpa using hc
    rw [parts_append_cons hc, parts_of_forall hxs, List.flatten_append, ih, List.filter_append,
      List.filter_eq_self.mpr hp, List.filter_cons_of_neg (by simp [hc']), List.flatten_singleton]

theorem runs_eq_nil_iff : runs p cs = [] ↔ ∀ c ∈ cs, p c = false := by
  constructor
  · intro h
    have hf := flatten_runs p cs
    rw [h, List.flatten_nil, eq_comm, List.filter_eq_nil_iff] at hf
    simpa using hf
  · intro h
    rw [List.eq_nil_iff_forall_not_mem]
    intro part hpart
    obtain ⟨hne, hall, before, after, rfl, _⟩ := mem_runs_iff.mp hpart
    obtain ⟨c, hc⟩ := List.exists_mem_of_ne_nil part hne
    simpa [hall c hc] using h c (by simp [hc])

/-- Blanks around a text do not count. -/
theorem trimmed_padded (hbefore : ∀ c ∈ before, isBlank c = true)
    (hafter : ∀ c ∈ after, isBlank c = true) (cs : List Char) :
    trimmed (before ++ cs ++ after) = trimmed cs := by
  have hnone : after.dropWhile isBlank = [] := List.dropWhile_eq_nil_iff.mpr hafter
  have hafter' : ∀ c ∈ after.reverse, isBlank c = true := by simpa using hafter
  rw [trimmed, trimmed, List.append_assoc, List.dropWhile_append_of_pos hbefore,
    List.dropWhile_append]
  split
  case isTrue h => rw [hnone, List.isEmpty_iff.mp h]
  case isFalse => rw [List.reverse_append, List.dropWhile_append_of_pos hafter']

/-- Every text is what it is trimmed to, with blanks around. -/
theorem exists_padding (cs : List Char) : ∃ before after, (∀ c ∈ before, isBlank c = true) ∧
    (∀ c ∈ after, isBlank c = true) ∧ cs = before ++ trimmed cs ++ after := by
  refine ⟨cs.takeWhile isBlank, ((cs.dropWhile isBlank).reverse.takeWhile isBlank).reverse,
    fun c => List.mem_takeWhile_imp,
    fun c hc => List.mem_takeWhile_imp (List.mem_reverse.mp hc), ?_⟩
  rw [trimmed, List.append_assoc, ← List.reverse_append, List.takeWhile_append_dropWhile,
    List.reverse_reverse, List.takeWhile_append_dropWhile]

/-- A text is trimmed when neither end is blank. -/
theorem trimmed_eq_self (hfirst : ∀ c ∈ cs.head?, isBlank c = false)
    (hlast : ∀ c ∈ cs.getLast?, isBlank c = false) : trimmed cs = cs := by
  have hkeep : ∀ {xs : List Char}, (∀ c ∈ xs.head?, isBlank c = false) →
      xs.dropWhile isBlank = xs := by
    intro xs hxs
    cases xs with
    | nil => rfl
    | cons x xs => rw [List.dropWhile_cons_of_neg (by simp [hxs x rfl])]
  rw [trimmed, hkeep hfirst, hkeep (by simpa using hlast), List.reverse_reverse]

theorem trimmed_getLast? (cs : List Char) (h : c ∈ (trimmed cs).getLast?) : isBlank c = false := by
  rw [trimmed, List.getLast?_reverse, Option.mem_def] at h
  have hn := List.head?_dropWhile_not isBlank (cs.dropWhile isBlank).reverse
  rwa [h] at hn

/-- Trimmed text holds a word, unless it is empty. -/
theorem words_trimmed_ne_nil (h : trimmed cs ≠ []) : words (trimmed cs) ≠ [] := by
  obtain ⟨front, c, ht⟩ := (List.eq_nil_or_concat' (trimmed cs)).resolve_left h
  have hc : isBlank c = false := trimmed_getLast? cs (by simp [ht])
  intro hw
  have hb := runs_eq_nil_iff.mp hw c (by simp [ht])
  simp [hc] at hb

end TableView.Text
