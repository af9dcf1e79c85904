import Mathlib.Data.List.Forall2
import TableView.Proofs.Pattern.Wildcards

/-! What a written pattern matches: both backends accept just the texts that divide into the pieces
of the pattern. -/
namespace TableView

/-- Matching of pattern texts as backends document it: one character after the other, an escape
makes the next one stand for itself. An escape at the very end matches nothing. -/
inductive Wildcards.Accepts (w : Wildcards) : List Char → List Char → Prop
  | done : w.Accepts [] []
  | escaped (c : Char) {pattern s : List Char} :
    w.Accepts pattern s → w.Accepts (w.escape :: c :: pattern) (c :: s)
  | run (part : List Char) {pattern s : List Char} :
    w.Accepts pattern s → w.Accepts (w.run :: pattern) (part ++ s)
  | one (c : Char) {pattern s : List Char} :
    w.Accepts pattern s → w.Accepts (w.one :: pattern) (c :: s)
  | char {c : Char} {pattern s : List Char} (hrun : c ≠ w.run) (hone : c ≠ w.one)
    (hescape : c ≠ w.escape) : w.Accepts pattern s → w.Accepts (c :: pattern) (c :: s)

/-- The part of a text that a piece stands for. -/
def Piece.Fits : Piece → List Char → Prop
  | .any, _ => True
  | .literal text, part => part = text.toList

namespace Pattern

/-- A text is cut into consecutive parts, one for each piece. -/
def Splits (p : Pattern) (s : List Char) : Prop :=
  ∃ parts, List.Forall₂ Piece.Fits p parts ∧ s = parts.flatten

variable {p : Pattern} {s : List Char}

@[simp]
theorem splits_nil : Splits [] s ↔ s = [] := by
  constructor
  · rintro ⟨parts, hf, rfl⟩
    cases hf
    rfl
  · rintro rfl
    exact ⟨[], .nil, rfl⟩

theorem splits_cons {piece : Piece} :
    Splits (piece :: p) s ↔ ∃ part rest, piece.Fits part ∧ Splits p rest ∧ s = part ++ rest := by
  constructor
  · rintro ⟨parts, hf, rfl⟩
    cases hf with
    | @cons _ part _ parts hpart hrest =>
      exact ⟨part, parts.flatten, hpart, ⟨parts, hrest, rfl⟩, rfl⟩
  · rintro ⟨part, rest, hpart, ⟨parts, hrest, rfl⟩, rfl⟩
    exact ⟨part :: parts, .cons hpart hrest, rfl⟩

theorem splits_any : Splits (.any :: p) s ↔ ∃ part rest, s = part ++ rest ∧ Splits p rest := by
  simp only [splits_cons, Piece.Fits, true_and, and_comm]

theorem splits_literal {text : String} :
    Splits (.literal text :: p) s ↔ ∃ rest, s = text.toList ++ rest ∧ Splits p rest := by
  simp only [splits_cons, Piece.Fits]
  constructor
  · rintro ⟨part, rest, rfl, hrest, rfl⟩
    exact ⟨rest, rfl, hrest⟩
  · rintro ⟨rest, rfl, hrest⟩
    exact ⟨_, rest, rfl, hrest, rfl⟩

theorem splits_containing {needle : String} :
    Splits (containing needle) s ↔ needle.toList <:+: s := by
  simp only [containing, splits_any, splits_literal, splits_nil]
  constructor
  · rintro ⟨before, _, rfl, _, rfl, after, _, rfl, rfl⟩
    exact ⟨before, after, by simp⟩
  · rintro ⟨before, after, rfl⟩
    exact ⟨before, _, List.append_assoc .., _, rfl, after, [], (List.append_nil _).symm, rfl⟩

/-- The reading of a pattern into tokens matches the same texts. -/
theorem accept_tokens : Token.accept p.tokens s = true ↔ p.Splits s := by
  induction p generalizing s with
  | nil => simp [tokens, Token.accept]
  | cons piece rest ih =>
    cases piece with
    | any =>
      have ht : tokens (.any :: rest) = .run :: tokens rest := rfl
      simp only [ht, Token.accept_run, ih, splits_any]
    | literal text =>
      have ht : tokens (.literal text :: rest) = text.toList.map .char ++ tokens rest := rfl
      simp only [ht, Token.accept_chars, ih, splits_literal]

end Pattern

namespace Wildcards

/-- The three special characters differ. -/
structure Distinct (w : Wildcards) : Prop where
  run_ne_one : w.run ≠ w.one
  run_ne_escape : w.run ≠ w.escape
  one_ne_escape : w.one ≠ w.escape

theorem like_distinct : like.Distinct := ⟨by decide, by decide, by decide⟩

theorem index_distinct : index.Distinct := ⟨by decide, by decide, by decide⟩

variable {w : Wildcards} {pattern s : List Char} {c : Char}

theorem accepts_nil : w.Accepts [] s ↔ s = [] := by
  constructor
  · intro h
    cases h
    rfl
  · rintro rfl
    exact .done

theorem accepts_run (hw : w.Distinct) :
    w.Accepts (w.run :: pattern) s ↔ ∃ part rest, s = part ++ rest ∧ w.Accepts pattern rest := by
  constructor
  · intro h
    generalize hp : w.run :: pattern = written at h
    cases h with
    | done => cases hp
    | escaped => exact absurd (List.cons.inj hp).1 hw.run_ne_escape
    | run part h => exact ⟨part, _, rfl, (List.cons.inj hp).2 ▸ h⟩
    | one => exact absurd (List.cons.inj hp).1 hw.run_ne_one
    | char hrun => exact absurd (List.cons.inj hp).1.symm hrun
  · rintro ⟨part, rest, rfl, h⟩
    exact .run part h

theorem accepts_escaped (hw : w.Distinct) :
    w.Accepts (w.escape :: c :: pattern) s ↔ ∃ rest, s = c :: rest ∧ w.Accepts pattern rest := by
  constructor
  · intro h
    generalize hp : w.escape :: c :: pattern = written at h
    cases h with
    | done => cases hp
    | escaped d h =>
      obtain ⟨rfl, rfl⟩ := List.cons.inj (List.cons.inj hp).2
      exact ⟨_, rfl, h⟩
    | run => exact absurd (List.cons.inj hp).1.symm hw.run_ne_escape
    | one => exact absurd (List.cons.inj hp).1.symm hw.one_ne_escape
    | char _ _ hescape => exact absurd (List.cons.inj hp).1.symm hescape
  · rintro ⟨rest, rfl, h⟩
    exact .escaped c h

theorem accepts_char (hrun : c ≠ w.run) (hone : c ≠ w.one) (hescape : c ≠ w.escape) :
    w.Accepts (c :: pattern) s ↔ ∃ rest, s = c :: rest ∧ w.Accepts pattern rest := by
  constructor
  · intro h
    generalize hp : c :: pattern = written at h
    cases h with
    | done => cases hp
    | escaped => exact absurd (List.cons.inj hp).1 hescape
    | run => exact absurd (List.cons.inj hp).1 hrun
    | one => exact absurd (List.cons.inj hp).1 hone
    | char _ _ _ h =>
      obtain ⟨rfl, rfl⟩ := List.cons.inj hp
      exact ⟨_, rfl, h⟩
  · rintro ⟨rest, rfl, h⟩
    exact .char hrun hone hescape h

theorem accepts_escapeChar (hw : w.Distinct) :
    w.Accepts (w.escapeChar c ++ pattern) s ↔ ∃ rest, s = c :: rest ∧ w.Accepts pattern rest := by
  unfold escapeChar
  split
  · exact accepts_escaped hw
  · next h =>
    simp only [not_or] at h
    exact accepts_char h.1 h.2.1 h.2.2

/-- Escaped text matches itself, whatever stands after it. -/
theorem accepts_text (hw : w.Distinct) (text : List Char) :
    w.Accepts (text.flatMap w.escapeChar ++ pattern) s ↔
      ∃ rest, s = text ++ rest ∧ w.Accepts pattern rest := by
  induction text generalizing s with
  | nil => simp
  | cons c text ih =>
    rw [List.flatMap_cons, List.append_assoc, accepts_escapeChar hw]
    constructor
    · rintro ⟨_, rfl, htext⟩
      obtain ⟨rest, rfl, h⟩ := ih.mp htext
      exact ⟨rest, rfl, h⟩
    · rintro ⟨rest, rfl, h⟩
      exact ⟨text ++ rest, rfl, ih.mpr ⟨rest, rfl, h⟩⟩

/-- By induction on the pieces: a wildcard takes any part, a literal its own text. -/
theorem accepts_render (hw : w.Distinct) {escape : String → String}
    (he : ∀ text, (escape text).toList = text.toList.flatMap w.escapeChar) (p : Pattern) :
    w.Accepts (p.render (String.singleton w.run) escape).toList s ↔ p.Splits s := by
  unfold Pattern.render
  induction p generalizing s with
  | nil => simp [accepts_nil]
  | cons piece rest ih =>
    rw [List.map_cons, String.join_cons, String.toList_append]
    cases piece with
    | any =>
      simp only [String.toList_singleton, List.singleton_append, accepts_run hw, ih,
        Pattern.splits_any]
    | literal text => simp only [he, accepts_text hw, ih, Pattern.splits_literal]

end Wildcards

namespace Pattern

/-- The reading of a written pattern that is used for rows and documents is the documented one. -/
theorem accept_read_render {w : Wildcards} (hw : w.Distinct) {escape : String → String}
    (he : ∀ text, (escape text).toList = text.toList.flatMap w.escapeChar) (p : Pattern)
    (s : List Char) :
    Token.accept (w.read (p.render (String.singleton w.run) escape).toList) s = true ↔
      w.Accepts (p.render (String.singleton w.run) escape).toList s := by
  rw [read_render w hw.run_ne_escape he, accept_tokens, Wildcards.accepts_render hw he]

/-- A pattern written for either backend accepts just the texts that divide into its pieces. -/
theorem render_exact (p : Pattern) (s : String) :
    (Wildcards.like.Accepts (p.render "%" Sql.Predicate.escapeLike).toList s.toList ↔
        Wildcards.index.Accepts (p.render "*" Index.Clause.escapeWildcard).toList s.toList) ∧
      (Wildcards.like.Accepts (p.render "%" Sql.Predicate.escapeLike).toList s.toList ↔
        p.Splits s.toList) := by
  have hlike : Wildcards.like.Accepts (p.render "%" Sql.Predicate.escapeLike).toList s.toList ↔
      p.Splits s.toList :=
    Wildcards.accepts_render Wildcards.like_distinct (fun _ => String.toList_ofList) p
  have hindex : Wildcards.index.Accepts (p.render "*" Index.Clause.escapeWildcard).toList s.toList ↔
      p.Splits s.toList :=
    Wildcards.accepts_render Wildcards.index_distinct (fun _ => String.toList_ofList) p
  exact ⟨hlike.trans hindex.symm, hlike⟩

end Pattern
end TableView
