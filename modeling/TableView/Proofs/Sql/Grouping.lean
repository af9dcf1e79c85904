import Mathlib.Data.List.Basic
import Mathlib.Data.List.Induction
import TableView.Proofs.Sql.Nesting

/-! Conjunctions and disjunctions of conditions can be taken apart again, whatever stands in the
conditions, so that what they say together is what each of them says by itself. -/
namespace TableView.Sql
open Fragment (andAll? connect orAll? reduce?)

/-- The parts of a text `(X) word (Y)`: the first parenthesis closes right behind `X`, and the other
at the end. -/
def split? (word : String) : List Char → Option (List Char × List Char)
  | '(' :: text => do
    let (first, rest) ← Nesting.closing? {} text
    let (second, rest) ← Nesting.closing? {} (← rest.dropPrefix? (" " ++ word ++ " (").toList)
    if rest = [] then some (first, second) else none
  | _ => none

/-- Splits a text, then its first part and so on, so many times in all. -/
def parts? (word : String) : Nat → List Char → Option (List (List Char))
  | 0, text => some [text]
  | n + 1, text => do
    let (first, last) ← split? word text
    return (← parts? word n first) ++ [last]

/-- A condition that has a text, in which quotes and parentheses pair up. -/
structure Fragment.Whole (f : Fragment) : Prop where
  ne_empty : f.sql ≠ ""
  level : Level f.sql

/-- The conditions can be read off their connection by a word: it is balanced, its last part is the
last condition, and as many splits as there were connections give all of them in order. -/
structure TakesApart (word : String) (fs : List Fragment) (g : Fragment) : Prop where
  level : Level g.sql
  form : ∃ first last, fs.getLast? = some last ∧
    g.sql = "(" ++ first ++ ") " ++ word ++ " (" ++ last.sql ++ ")" ∧
    split? word g.sql.toList = some (first.toList, last.sql.toList)
  parts : parts? word (fs.length - 1) g.sql.toList = some (fs.map (·.sql.toList))
  params : g.params = fs.flatMap (·.params)

section Connection
variable {word : String} {a b f : Fragment} {fs : List Fragment} {v : Reader}

theorem Fragment.Whole.balanced (h : f.Whole) : f.Balanced := level_iff_balanced.mp h.level

theorem Fragment.Whole.connect (hword : Sql.Balanced word) (ha : a.Whole) (hb : b.Whole) :
    (connect word a b).Whole where
  ne_empty := by simp [connect_sql ha.ne_empty hb.ne_empty]
  level := level_iff_balanced.mpr (Balanced.connect hword ha.balanced hb.balanced)

theorem Fragment.Whole.foldl (hword : Sql.Balanced word) (hf : f.Whole) (hfs : ∀ g ∈ fs, g.Whole) :
    (fs.foldl (Fragment.connect word) f).Whole := by
  induction fs generalizing f with
  | nil => exact hf
  | cons g fs ih =>
    exact ih (hf.connect hword (hfs g List.mem_cons_self)) fun k hk =>
      hfs k (List.mem_cons_of_mem _ hk)

theorem split?_connect (ha : a.Whole) (hb : b.Whole) :
    split? word (connect word a b).sql.toList = some (a.sql.toList, b.sql.toList) := by
  have htext : (connect word a b).sql.toList = '(' :: (a.sql.toList ++
      ')' :: ((" " ++ word ++ " (").toList ++ (b.sql.toList ++ ')' :: []))) := by
    simp [Fragment.connect_sql ha.ne_empty hb.ne_empty]
  rw [htext]
  simp only [split?, Nesting.closing?_level ha.level, Nesting.closing?_level hb.level,
    List.dropPrefix?_append_of_beq _ (beq_self_eq_true _), Option.bind_eq_bind, Option.bind_some,
    if_true]

/-- By induction on the conditions from the last one, which is the first to be split off. -/
theorem parts?_foldl (hword : Balanced word) (hf : f.Whole) (hfs : ∀ g ∈ fs, g.Whole) :
    parts? word fs.length (fs.foldl (connect word) f).sql.toList =
      some ((f :: fs).map (·.sql.toList)) := by
  induction fs using List.reverseRecOn with
  | nil => rfl
  | append_singleton fs g ih =>
    have hbefore : ∀ k ∈ fs, k.Whole := fun k hk => hfs k (List.mem_append_left _ hk)
    have hg : g.Whole := hfs g (by simp)
    rw [List.foldl_append, List.length_append, List.foldl_cons, List.foldl_nil]
    simp only [List.length_singleton, parts?, split?_connect (hf.foldl hword hbefore) hg,
      ih hbefore, Option.bind_eq_bind, Option.bind_some]
    simp

theorem takesApart_reduce (hword : Balanced word) (hcount : 2 ≤ fs.length)
    (hfs : ∀ f ∈ fs, f.Whole) :
    ∃ g, reduce? (connect word) fs = some g ∧ TakesApart word fs g := by
  obtain _ | ⟨f, gs⟩ := fs
  · simp at hcount
  obtain rfl | ⟨before, last, rfl⟩ := List.eq_nil_or_concat' gs
  · simp at hcount
  have hf : f.Whole := hfs f List.mem_cons_self
  have hgs : ∀ g ∈ before ++ [last], g.Whole := fun g hg => hfs g (List.mem_cons_of_mem _ hg)
  have hfirst : (before.foldl (connect word) f).Whole :=
    hf.foldl hword fun g hg => hgs g (List.mem_append_left _ hg)
  have hlast : last.Whole := hgs last (by simp)
  have hfold : (before ++ [last]).foldl (connect word) f =
      connect word (before.foldl (connect word) f) last := by simp
  refine ⟨_, rfl, ?_⟩
  constructor
  case level => exact (hf.foldl hword hgs).level
  case form =>
    refine ⟨(before.foldl (connect word) f).sql, last, ?_, ?_, ?_⟩
    · rw [← List.cons_append, List.getLast?_concat]
    · rw [hfold, Fragment.connect_sql hfirst.ne_empty hlast.ne_empty]
    · rw [hfold, split?_connect hfirst hlast]
  case parts => exact parts?_foldl hword hf hgs
  case params => exact Fragment.foldl_connect_params

/-- Conditions joined by `OR` say what any of them says. -/
theorem Reader.text_foldl_any (hf : f.Whole) (hfs : ∀ g ∈ fs, g.Whole) :
    v.text (fs.foldl Fragment.or f).sql = .any ((f :: fs).map (v.text ·.sql)) := by
  induction fs generalizing f with
  | nil => simp [Truth.any]
  | cons g fs ih =>
    have hg : g.Whole := hfs g List.mem_cons_self
    have hboth : (f.or g).Whole := hf.connect (.of_plain rfl) hg
    rw [List.foldl_cons, ih hboth fun k hk => hfs k (List.mem_cons_of_mem _ hk)]
    simp only [List.map_cons, Truth.any_cons, text_or hf.balanced hg.balanced hf.ne_empty
      hg.ne_empty, Truth.or_assoc]

end Connection
end TableView.Sql
