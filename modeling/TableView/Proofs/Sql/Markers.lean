import TableView.Sql.Ordering
import TableView.Sql.Predicate
import TableView.Sql.Relation

/-! Quotes and markers in statements: every marker outside a literal has its bound value. -/
namespace TableView.Sql

/-- Whether a literal is open after a text that starts inside or outside of one. -/
def quotedAfter (quoted : Bool) : List Char → Bool
  | [] => quoted
  | c :: rest => quotedAfter (if c = '\'' then !quoted else quoted) rest

/-- The number of markers outside literals. -/
def markers (quoted : Bool) : List Char → Nat
  | [] => 0
  | c :: rest =>
    (if c = '?' ∧ quoted = false then 1 else 0) +
      markers (if c = '\'' then !quoted else quoted) rest

/-- The quotes of a text pair up, and `n` markers stand outside of them. -/
def Marked (s : String) (n : Nat) : Prop :=
  quotedAfter false s.toList = false ∧ markers false s.toList = n

instance (s : String) (n : Nat) : Decidable (Marked s n) :=
  inferInstanceAs (Decidable (_ ∧ _))

/-- Paired quotes and no markers. -/
abbrev Clean (s : String) : Prop := Marked s 0

/-- Paired quotes and one marker for each bound value. -/
def Fragment.WellFormed (f : Fragment) : Prop := Marked f.sql f.params.length

section Scan
variable {a b cs ds : List Char} {s t : String} {m n : Nat} {q : Bool}

theorem quotedAfter_append :
    quotedAfter q (cs ++ ds) = quotedAfter (quotedAfter q cs) ds := by
  induction cs generalizing q with
  | nil => rfl
  | cons c cs ih => exact ih

theorem markers_append :
    markers q (cs ++ ds) = markers q cs + markers (quotedAfter q cs) ds := by
  induction cs generalizing q with
  | nil => simp [markers, quotedAfter]
  | cons c cs ih => simp only [List.cons_append, markers, quotedAfter, ih, Nat.add_assoc]

theorem Marked.append (hs : Marked s m) (ht : Marked t n) : Marked (s ++ t) (m + n) := by
  unfold Marked at *
  rw [String.toList_append, quotedAfter_append, markers_append, hs.1, hs.2, ht.1, ht.2]
  exact ⟨rfl, rfl⟩

theorem Clean.append (hs : Clean s) (ht : Clean t) : Clean (s ++ t) := Marked.append hs ht

theorem Clean.append_marked (hs : Clean s) (ht : Marked t n) : Marked (s ++ t) n := by
  simpa using Marked.append hs ht

theorem Marked.append_clean (hs : Marked s n) (ht : Clean t) : Marked (s ++ t) n :=
  Marked.append hs ht

theorem clean_empty : Clean "" := by decide

/-- A table and one of its columns. -/
theorem Clean.dot (hs : Clean s) (ht : Clean t) : Clean (s ++ "." ++ t) :=
  (hs.append (by decide)).append ht

/-- A text without quotes and question marks is clean. -/
theorem clean_of_plain (h : ∀ c ∈ s.toList, c ≠ '\'' ∧ c ≠ '?') : Clean s := by
  unfold Clean Marked
  generalize s.toList = cs at h
  induction cs with
  | nil => exact ⟨rfl, rfl⟩
  | cons c cs ih =>
    have hc := h c List.mem_cons_self
    simpa [quotedAfter, markers, hc] using ih fun d hd => h d (List.mem_cons_of_mem _ hd)

theorem clean_toString (n : Nat) : Clean (toString n) := by
  apply clean_of_plain
  intro c hc
  rw [Nat.toString_eq_repr, Nat.toList_repr] at hc
  have hd := Nat.isDigit_of_mem_toDigits (by omega) (by omega) hc
  constructor <;> rintro rfl <;> simp [Char.isDigit] at hd

theorem clean_join {l : List String} (h : ∀ s ∈ l, Clean s) : Clean (String.join l) := by
  induction l with
  | nil => simpa using clean_empty
  | cons s l ih =>
    rw [String.join_cons]
    exact (h s List.mem_cons_self).append (ih fun t ht => h t (List.mem_cons_of_mem _ ht))

theorem clean_intercalate (hs : Clean s) {l : List String} (h : ∀ t ∈ l, Clean t) :
    Clean (s.intercalate l) := by
  induction l with
  | nil => simpa using clean_empty
  | cons t l ih =>
    have ht := h t List.mem_cons_self
    by_cases hl : l = []
    · simpa [hl] using ht
    · rw [String.intercalate_cons_of_ne_nil hl]
      exact (ht.append hs).append (ih fun u hu => h u (List.mem_cons_of_mem _ hu))

theorem marked_markerList (n : Nat) :
    Marked (", ".intercalate (List.replicate n "?")) n := by
  induction n with
  | zero => simpa using clean_empty
  | succ n ih =>
    cases n with
    | zero => simpa using (by decide : Marked "?" 1)
    | succ n =>
      rw [List.replicate_succ, String.intercalate_cons_of_ne_nil (by simp)]
      simpa [Nat.add_comm] using Marked.append (by decide : Marked ("?" ++ ", ") 1) ih

end Scan

section Render
variable {cs : List Char} {q : Bool} {n : Nat} {mark : Nat → List Char} {d : Dialect} {f : Fragment}

/-- The text before the first marker and the stretches after each; a quoted one is no marker. -/
def stretches (quoted : Bool) : List Char → List Char × List (List Char)
  | [] => ([], [])
  | c :: rest =>
    let (first, others) := stretches (if c = '\'' then !quoted else quoted) rest
    if c = '?' ∧ quoted = false then ([], first :: others) else (c :: first, others)

/-- Puts marks before the stretches, counted from `n + 1` on. -/
def weave (mark : Nat → List Char) (n : Nat) : List (List Char) → List Char
  | [] => []
  | s :: rest => mark (n + 1) ++ s ++ weave mark (n + 1) rest

/-- A text with its markers replaced by marks, the first of which is the one for `1`. -/
def marked (mark : Nat → List Char) (s : String) : String :=
  let (first, others) := stretches false s.toList
  String.ofList (first ++ weave mark 0 others)

theorem stretches_length : (stretches q cs).2.length = markers q cs := by
  induction cs generalizing q with
  | nil => rfl
  | cons c cs ih =>
    by_cases hm : c = '?' ∧ q = false
    · simp [stretches, markers, hm, ih, Nat.add_comm]
    · simp [stretches, markers, hm, ih]

/-- With question marks for marks the text comes back. -/
theorem weave_stretches :
    (stretches q cs).1 ++ weave (fun _ => ['?']) n (stretches q cs).2 = cs := by
  induction cs generalizing q n with
  | nil => rfl
  | cons c cs ih =>
    by_cases hm : c = '?' ∧ q = false
    · simp [stretches, hm, weave, ih]
    · simp [stretches, hm, ih]

theorem renderFrom_eq_weave :
    Fragment.renderFrom d q n cs =
      (stretches q cs).1 ++ weave (fun k => (d.placeholder k).toList) n (stretches q cs).2 := by
  induction cs generalizing q n with
  | nil => rfl
  | cons c cs ih =>
    by_cases hq : c = '\''
    · simp [Fragment.renderFrom, stretches, hq, ih]
    · by_cases hm : c = '?' ∧ q = false
      · simp [Fragment.renderFrom, stretches, hm, weave, ih]
      · simp [Fragment.renderFrom, stretches, hq, hm, ih]

theorem marked_question (s : String) : marked (fun _ => ['?']) s = s := by
  simp only [marked, weave_stretches, String.ofList_toList]

theorem render_sql (f : Fragment) (d : Dialect) :
    (f.render d).sql = marked (fun k => (d.placeholder k).toList) f.sql := by
  simp only [Fragment.render, marked, renderFrom_eq_weave]

end Render
end TableView.Sql
