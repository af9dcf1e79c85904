import TableView.Proofs.Sql.Reading

/-! Parentheses by count: a text is balanced just when its quotes pair up and the number of open
parentheses never falls below zero and ends there, and what a parenthesis encloses goes up to where
that number comes back. -/
namespace TableView.Sql

/-- Whether a literal is open, and how many parentheses are. -/
structure Nesting where
  quoted : Bool := false
  depth : Nat := 0
deriving DecidableEq

namespace Nesting

/-- One character on; no parenthesis closes where none is open, and in literals there are none. -/
def step (s : Nesting) (c : Char) : Option Nesting :=
  if c = '\'' then some { s with quoted := !s.quoted }
  else if s.quoted then some s
  else if c = '(' then some { s with depth := s.depth + 1 }
  else if c = ')' then
    if s.depth = 0 then none else some { s with depth := s.depth - 1 }
  else some s

def run (s : Nesting) (cs : List Char) : Option Nesting := cs.foldlM step s

/-- The text up to the parenthesis that closes one before it, and the text after that. -/
def closing? (s : Nesting) : List Char → Option (List Char × List Char)
  | [] => none
  | c :: rest =>
    match s.step c with
    | none => some ([], rest)
    | some t => (closing? t rest).map fun (inner, after) => (c :: inner, after)

end Nesting

/-- Quotes pair up, and outside of literals every parenthesis that closes closes one that is open,
until none is. -/
def Level (text : String) : Prop := Nesting.run {} text.toList = some {}

instance : DecidablePred Level := fun text =>
  inferInstanceAs (Decidable (Nesting.run {} text.toList = some {}))

namespace Nesting
variable {s t : Nesting} {c : Char} {cs ds : List Char} {q r : Bool} {d e k : Nat}

@[simp] theorem run_nil : run s [] = some s := rfl

@[simp] theorem run_cons : run s (c :: cs) = (step s c).bind (run · cs) := by
  simp only [run, List.foldlM_cons, Option.bind_eq_bind]

@[simp] theorem run_append : run s (cs ++ ds) = (run s cs).bind (run · ds) := by
  simp only [run, List.foldlM_append, Option.bind_eq_bind]

/-- Only a parenthesis that closes nothing ends a count. -/
theorem step_eq_none : step ⟨q, d⟩ c = none ↔ q = false ∧ d = 0 ∧ c = ')' := by
  grind [step]

/-- Parentheses that are open around a text make no difference inside of it. -/
theorem step_add (h : step ⟨q, d⟩ c = some ⟨r, e⟩) (k : Nat) :
    step ⟨q, d + k⟩ c = some ⟨r, e + k⟩ := by
  grind [step]

theorem run_quoted (h : ∀ c ∈ cs, c ≠ '\'') : run ⟨true, d⟩ cs = some ⟨true, d⟩ := by
  induction cs with
  | nil => rfl
  | cons c cs ih =>
    have hc : step ⟨true, d⟩ c = some ⟨true, d⟩ := by simp [step, h c List.mem_cons_self]
    rw [run_cons, hc, Option.bind_some]
    exact ih fun e he => h e (List.mem_cons_of_mem _ he)

theorem run_pairs (h : Pairs cs) (d : Nat) : run ⟨false, d⟩ cs = some ⟨false, d⟩ := by
  induction h generalizing d with
  | nil => rfl
  | @plain c _ hquote hopen hclose _ ih =>
    have hstep : step ⟨false, d⟩ c = some ⟨false, d⟩ := by simp [step, hquote, hopen, hclose]
    rw [run_cons, hstep, Option.bind_some, ih]
  | literal hquoted _ ih =>
    have hquote : ∀ q, step ⟨q, d⟩ '\'' = some ⟨!q, d⟩ := fun _ => rfl
    rw [run_cons, hquote, Option.bind_some, run_append, Bool.not_false, run_quoted hquoted,
      Option.bind_some, run_cons, hquote, Option.bind_some, Bool.not_true, ih]
  | parens _ _ ihInner ih =>
    have hopen : step ⟨false, d⟩ '(' = some ⟨false, d + 1⟩ := rfl
    have hclose : step ⟨false, d + 1⟩ ')' = some ⟨false, d⟩ := rfl
    rw [run_cons, hopen, Option.bind_some, run_append, ihInner, Option.bind_some, run_cons, hclose,
      Option.bind_some, ih]

/-- A literal that is open ends at the next quote. -/
theorem exists_literal (h : run ⟨true, d⟩ cs = some ⟨false, e⟩) : ∃ quoted after,
    cs = quoted ++ '\'' :: after ∧ (∀ c ∈ quoted, c ≠ '\'') ∧
      run ⟨false, d⟩ after = some ⟨false, e⟩ := by
  induction cs with
  | nil => simp at h
  | cons c cs ih =>
    by_cases hquote : c = '\''
    · subst hquote
      exact ⟨[], cs, rfl, by simp, h⟩
    · have hstep : step ⟨true, d⟩ c = some ⟨true, d⟩ := by simp [step, hquote]
      rw [run_cons, hstep, Option.bind_some] at h
      obtain ⟨quoted, after, rfl, hquoted, hafter⟩ := ih h
      exact ⟨c :: quoted, after, rfl, by simpa [hquote] using hquoted, hafter⟩

/-- A parenthesis that is open around a text ends where the count comes back to what it was. -/
theorem exists_closing (h : run ⟨q, k + (d + 1)⟩ cs = some ⟨false, 0⟩) : ∃ inner after,
    cs = inner ++ ')' :: after ∧ run ⟨q, k⟩ inner = some ⟨false, 0⟩ ∧
      run ⟨false, d⟩ after = some ⟨false, 0⟩ := by
  induction cs generalizing q k with
  | nil => simp at h
  | cons c cs ih =>
    cases hstep : step ⟨q, k⟩ c with
    | none =>
      obtain ⟨rfl, rfl, rfl⟩ := step_eq_none.mp hstep
      have hclose : step ⟨false, 0 + (d + 1)⟩ ')' = some ⟨false, d⟩ := by simp [step]
      rw [run_cons, hclose, Option.bind_some] at h
      exact ⟨[], cs, rfl, rfl, h⟩
    | some t =>
      rw [run_cons, step_add hstep, Option.bind_some] at h
      obtain ⟨inner, after, rfl, hinner, hafter⟩ := ih h
      exact ⟨c :: inner, after, rfl, by rw [run_cons, hstep]; exact hinner, hafter⟩

/-- By induction on the length, one plain character, literal or parenthesis after the other. -/
theorem pairs_of_run : ∀ cs : List Char, run {} cs = some {} → Pairs cs := by
  intro cs h
  match cs with
  | [] => exact .nil
  | c :: rest =>
    by_cases hquote : c = '\''
    · subst hquote
      obtain ⟨quoted, after, rfl, hquoted, hafter⟩ := exists_literal (d := 0) h
      exact .literal hquoted (pairs_of_run after hafter)
    · by_cases hopen : c = '('
      · subst hopen
        obtain ⟨inner, after, rfl, hinner, hafter⟩ := exists_closing (k := 0) (d := 0) h
        exact .parens (pairs_of_run inner hinner) (pairs_of_run after hafter)
      · have hclose : c ≠ ')' := by
          rintro rfl
          cases h
        have hstep : step {} c = some {} := by simp [step, hquote, hopen, hclose]
        rw [run_cons, hstep, Option.bind_some] at h
        exact .plain hquote hopen hclose (pairs_of_run rest h)
termination_by cs => cs.length

theorem closing?_append (h : run s cs = some t) (ds : List Char) :
    closing? s (cs ++ ds) = (closing? t ds).map fun (inner, after) => (cs ++ inner, after) := by
  induction cs generalizing s with
  | nil =>
    cases h
    simp
  | cons c cs ih =>
    obtain ⟨u, hstep, hrest⟩ := Option.bind_eq_some_iff.mp (run_cons ▸ h)
    simp only [List.cons_append, closing?, hstep, ih hrest, Option.map_map]
    rfl

/-- What a parenthesis encloses is found by the count, whatever stands after it. -/
theorem closing?_level (h : run {} cs = some {}) (ds : List Char) :
    closing? {} (cs ++ ')' :: ds) = some (cs, ds) := by
  have hclose : closing? {} (')' :: ds) = some ([], ds) := rfl
  rw [closing?_append h, hclose]
  simp

end Nesting

/-- Counting finds the same texts balanced as pairing does. -/
theorem level_iff_balanced {s : String} : Level s ↔ Balanced s :=
  ⟨Nesting.pairs_of_run _, fun h => Nesting.run_pairs h 0⟩

end TableView.Sql
