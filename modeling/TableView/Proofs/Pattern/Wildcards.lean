import TableView.Index.Clause
import TableView.Proofs.Text.LowerCase
import TableView.Sql.Predicate

/-! Pattern languages with wildcards and an escape; both backends read a rendered pattern alike. -/
namespace TableView

/-- What one place of a pattern text asks for. -/
inductive Token
  | run
  | one
  | char (c : Char)
deriving DecidableEq

namespace Token

/-- Whether a whole text satisfies the tokens, one after the other. -/
def accept : List Token → List Char → Bool
  | [], cs => cs.isEmpty
  | run :: rest, cs => (List.range (cs.length + 1)).any fun n => accept rest (cs.drop n)
  | one :: rest, _ :: cs => accept rest cs
  | char c :: rest, d :: cs => c == d && accept rest cs
  | _ :: _, [] => false

variable {ts : List Token} {cs s : List Char}

theorem accept_run : accept (run :: ts) s = true ↔ ∃ a b, s = a ++ b ∧ accept ts b = true := by
  simp only [accept, List.any_eq_true, List.mem_range]
  constructor
  · rintro ⟨n, _, h⟩
    exact ⟨s.take n, s.drop n, (List.take_append_drop n s).symm, h⟩
  · rintro ⟨a, b, rfl, h⟩
    exact ⟨a.length, by rw [List.length_append]; omega, by simpa using h⟩

theorem accept_chars :
    accept (cs.map char ++ ts) s = true ↔ ∃ b, s = cs ++ b ∧ accept ts b = true := by
  induction cs generalizing s with
  | nil => simp
  | cons c cs ih =>
    cases s with
    | nil => simp [accept]
    | cons d s =>
      simp only [List.map_cons, List.cons_append, accept, Bool.and_eq_true, beq_iff_eq, ih,
        List.cons.injEq]
      constructor
      · rintro ⟨rfl, b, rfl, h⟩
        exact ⟨b, ⟨rfl, rfl⟩, h⟩
      · rintro ⟨b, ⟨rfl, rfl⟩, h⟩
        exact ⟨rfl, b, rfl, h⟩

theorem accept_any : accept [run] s = true := accept_run.mpr ⟨s, [], by simp, rfl⟩

end Token

/-- The special characters of a pattern language. -/
structure Wildcards where
  run : Char
  one : Char
  escape : Char

namespace Wildcards

/-- The patterns of `LIKE` and `ILIKE` after `ESCAPE '!'`. -/
def like : Wildcards := ⟨'%', '_', '!'⟩

/-- The patterns of an index's wildcard query. -/
def index : Wildcards := ⟨'*', '?', '\\'⟩

variable (w : Wildcards)

/-- An escape makes the next character stand for itself. -/
def read : List Char → List Token
  | [] => []
  | c :: rest =>
    if c = w.escape then
      match rest with
      | [] => [.char c]
      | d :: rest => .char d :: read rest
    else if c = w.run then .run :: read rest
    else if c = w.one then .one :: read rest
    else .char c :: read rest

def escapeChar (c : Char) : List Char :=
  if c = w.run ∨ c = w.one ∨ c = w.escape then [w.escape, c] else [c]

theorem read_run (hw : w.run ≠ w.escape) (rest : List Char) :
    w.read (w.run :: rest) = .run :: w.read rest := by
  cases rest <;> simp [read, hw]

theorem read_escapeChar (c : Char) (rest : List Char) :
    w.read (w.escapeChar c ++ rest) = .char c :: w.read rest := by
  unfold escapeChar
  split
  · simp [read]
  · next h =>
    simp only [not_or] at h
    cases rest <;> simp [read, h]

theorem read_escaped (cs rest : List Char) :
    w.read (cs.flatMap w.escapeChar ++ rest) = cs.map .char ++ w.read rest := by
  induction cs with
  | nil => rfl
  | cons c cs ih =>
    rw [List.flatMap_cons, List.append_assoc, read_escapeChar, ih]
    rfl

end Wildcards

namespace Pattern

def pieceTokens : Piece → List Token
  | .any => [.run]
  | .literal text => text.toList.map .char

def tokens (p : Pattern) : List Token := p.flatMap pieceTokens

/-- Rendering with escaped literals is undone by reading. -/
theorem read_render (w : Wildcards) (hw : w.run ≠ w.escape) {escape : String → String}
    (he : ∀ s, (escape s).toList = s.toList.flatMap w.escapeChar) (p : Pattern) :
    w.read (p.render (String.singleton w.run) escape).toList = p.tokens := by
  unfold render
  induction p with
  | nil => simp [tokens, Wildcards.read]
  | cons piece rest ih =>
    rw [List.map_cons, String.join_cons, String.toList_append]
    cases piece with
    | any =>
      simp only [String.toList_singleton, List.singleton_append, w.read_run hw, ih]
      rfl
    | literal text =>
      simp only [he, w.read_escaped, ih]
      rfl

theorem accept_containing {needle : String} {s : List Char} :
    Token.accept (containing needle).tokens s = true ↔ needle.toList <:+: s := by
  have ht : (containing needle).tokens = .run :: (needle.toList.map .char ++ [.run]) := by
    simp [containing, tokens, pieceTokens]
  simp only [ht, Token.accept_run, Token.accept_chars, Token.accept_any, and_true]
  constructor
  · rintro ⟨a, _, rfl, b, rfl⟩
    exact ⟨a, b, by simp⟩
  · rintro ⟨a, b, rfl⟩
    exact ⟨a, needle.toList ++ b, by simp, b, rfl⟩

/-- A pattern of lower-case text. -/
def IsLower (p : Pattern) : Prop :=
  ∀ text, Piece.literal text ∈ p → ∀ c ∈ text.toList, Text.IsLower c

theorem isLower_render {w : Wildcards} (hr : Text.IsLower w.run) (hs : Text.IsLower w.escape)
    {escape : String → String} (he : ∀ s, (escape s).toList = s.toList.flatMap w.escapeChar)
    {p : Pattern} (hp : p.IsLower) :
    ∀ c ∈ (p.render (String.singleton w.run) escape).toList, Text.IsLower c := by
  intro c hc
  simp only [render, String.toList_join, List.mem_flatMap, List.mem_map] at hc
  obtain ⟨s, ⟨piece, hpiece, rfl⟩, hc⟩ := hc
  cases piece with
  | any =>
    obtain rfl : c = w.run := by simpa using hc
    exact hr
  | literal text =>
    simp only [he, List.mem_flatMap] at hc
    obtain ⟨d, hd, hc⟩ := hc
    have hdc : c = w.escape ∨ c = d := by
      unfold Wildcards.escapeChar at hc
      split at hc <;> simp_all
    rcases hdc with rfl | rfl
    · exact hs
    · exact hp text hpiece _ hd

theorem read_like (p : Pattern) :
    Wildcards.like.read (Sql.Predicate.pattern p).toList = p.tokens :=
  read_render .like (by decide) (fun _ => String.toList_ofList) p

theorem isLower_like {p : Pattern} (hp : p.IsLower) :
    ∀ c ∈ (Sql.Predicate.pattern p).toList, Text.IsLower c :=
  isLower_render (w := .like) (by decide) (by decide) (fun _ => String.toList_ofList) hp

end Pattern
end TableView
