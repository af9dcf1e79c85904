import TableView.Proofs.Sql.Reading

/-! Numbered markers: each says which of the bound values it stands for, wherever its text
stands. -/
namespace TableView.Sql
open Fragment (renderFrom)

/-- The text with its markers numbered from `n + 1` on. -/
def numbered (n : Nat) (s : String) : String := String.ofList (renderFrom .sqlite false n s.toList)

section Render
variable {d : Dialect} {q : Bool} {n : Nat} {cs ds : List Char}

theorem renderFrom_append : renderFrom d q n (cs ++ ds) =
    renderFrom d q n cs ++ renderFrom d (quotedAfter q cs) (n + markers q cs) ds := by
  induction cs generalizing q n with
  | nil => rfl
  | cons c cs ih =>
    by_cases hquote : c = '\''
    · simp [renderFrom, quotedAfter, markers, hquote, ih]
    · by_cases hmark : c = '?' ∧ q = false
      · simp [renderFrom, quotedAfter, markers, hmark, ih, Nat.add_assoc]
      · simp [renderFrom, quotedAfter, markers, hquote, hmark, ih]

theorem renderFrom_of_no_markers (h : markers q cs = 0) : renderFrom d q n cs = cs := by
  induction cs generalizing q with
  | nil => rfl
  | cons c cs ih =>
    obtain ⟨hmark, hrest⟩ := Nat.add_eq_zero_iff.mp h
    have hrest' := ih hrest
    by_cases hquote : c = '\''
    · simpa [renderFrom, hquote] using hrest'
    · have hplain : ¬(c = '?' ∧ q = false) := by simpa using hmark
      rw [if_neg hquote] at hrest'
      rw [renderFrom, if_neg hquote, if_neg hplain, hrest']

theorem markers_quoted (hquoted : ∀ c ∈ cs, c ≠ '\'') :
    quotedAfter true cs = true ∧ markers true cs = 0 := by
  induction cs with
  | nil => exact ⟨rfl, rfl⟩
  | cons c cs ih =>
    have hc := hquoted c List.mem_cons_self
    simpa [quotedAfter, markers, hc] using ih fun d hd => hquoted d (List.mem_cons_of_mem _ hd)

theorem quotedAfter_of_pairs (h : Pairs cs) : quotedAfter false cs = false := by
  induction h with
  | nil => rfl
  | plain hquote _ _ _ ih => simpa [quotedAfter, hquote] using ih
  | literal hquoted _ ih =>
    simpa [quotedAfter, quotedAfter_append, (markers_quoted hquoted).1] using ih
  | parens _ _ ihInner ih => simpa [quotedAfter, quotedAfter_append, ihInner] using ih

theorem placeholder_toList (n : Nat) :
    (Dialect.sqlite.placeholder n).toList = '?' :: Nat.toDigits 10 n := by
  simp [Dialect.placeholder, Nat.toString_eq_repr]

theorem isWord_placeholder (n : Nat) : IsWord (Dialect.sqlite.placeholder n).toList := by
  rw [placeholder_toList]
  refine ⟨by simp, fun c hc => ?_⟩
  rcases List.mem_cons.mp hc with rfl | hc
  · decide
  · have hdigit := Nat.isDigit_of_mem_toDigits (by omega) (by omega) hc
    have hne : ∀ e : Char, e.isDigit = false → c ≠ e := by
      rintro e he rfl
      rw [hdigit] at he
      cases he
    simp [isPlain, hne '\'' rfl, hne '(' rfl, hne ')' rfl, hne ' ' rfl]

theorem balanced_placeholder (n : Nat) : Balanced (Dialect.sqlite.placeholder n) :=
  .of_plain (List.all_eq_true.mpr fun c hc => ((isWord_placeholder n).2 c hc).1)

/-- Numbers are no quotes and no parentheses. -/
theorem Pairs.renderFrom (h : Pairs cs) (n : Nat) : Pairs (renderFrom .sqlite false n cs) := by
  induction h generalizing n with
  | nil => exact .nil
  | @plain c cs hquote hopen hclose _ ih =>
    by_cases hmark : c = '?'
    · simpa [Fragment.renderFrom, hmark] using
        Pairs.append (balanced_placeholder (n + 1)) (ih (n + 1))
    · simpa [Fragment.renderFrom, hquote, hmark] using .plain hquote hopen hclose (ih n)
  | @literal quoted cs hquoted _ ih =>
    obtain ⟨hstill, hnone⟩ := markers_quoted hquoted
    simpa [Fragment.renderFrom, renderFrom_append, hstill, hnone, renderFrom_of_no_markers hnone]
      using .literal hquoted (ih n)
  | @parens inner cs hinner _ ihInner ih =>
    simpa [Fragment.renderFrom, renderFrom_append, quotedAfter_of_pairs hinner]
      using .parens (ihInner n) (ih _)

end Render

section Texts
variable {s t : String} {k n : Nat}

theorem Balanced.numbered (hs : Balanced s) (n : Nat) : Balanced (numbered n s) := by
  unfold Balanced Sql.numbered
  rw [String.toList_ofList]
  exact Pairs.renderFrom hs n

theorem numbered_append (hs : Marked s k) :
    numbered n (s ++ t) = numbered n s ++ numbered (n + k) t := by
  obtain ⟨hclosed, hmarkers⟩ := hs
  simp only [numbered, String.toList_append, renderFrom_append, hclosed, hmarkers,
    String.ofList_append]

theorem numbered_of_clean (hs : Clean s) : numbered n s = s := by
  rw [numbered, renderFrom_of_no_markers hs.2, String.ofList_toList]

theorem numbered_clean_append (hs : Clean s) : numbered n (s ++ t) = s ++ numbered n t := by
  rw [numbered_append hs, numbered_of_clean hs, Nat.add_zero]

theorem numbered_marker (n : Nat) : numbered n "?" = Dialect.sqlite.placeholder (n + 1) := by
  simp [numbered, renderFrom]

theorem numbered_ne_empty (hs : s ≠ "") (n : Nat) : numbered n s ≠ "" := by
  have hsome : s.toList ≠ [] := fun hnil => hs (String.toList_eq_nil_iff.mp hnil)
  obtain ⟨c, cs, hcs⟩ := List.exists_cons_of_ne_nil hsome
  intro hnone
  have hchars : renderFrom .sqlite false n (c :: cs) = [] := by
    rw [← hcs, ← String.toList_ofList (l := renderFrom _ _ _ _)]
    exact String.toList_eq_nil_iff.mpr hnone
  revert hchars
  simp only [renderFrom, Dialect.placeholder]
  split
  · simp
  · split <;> simp

end Texts
end TableView.Sql
