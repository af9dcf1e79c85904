import TableView.Proofs.Pattern.Matching
import TableView.Proofs.Text.Runs

/-! Patterns of quoted terms: quotes and text take turns, and the text between quotes has to occur
in the order it is written. -/
namespace TableView

/-- The segments occur in a text one after the other, none overlapping the one before. -/
def OccurInOrder : List (List Char) → List Char → Prop
  | [], _ => True
  | segment :: rest, s => ∃ before after, s = before ++ segment ++ after ∧ OccurInOrder rest after

/-- What stands between the quotes of a text, empty stretches left out. -/
def quotedSegments (cs : List Char) : List (List Char) :=
  (cs.splitOn '"').filter fun segment => !segment.isEmpty

theorem of_mem_quotedSegments {cs segment : List Char} (h : segment ∈ quotedSegments cs) :
    segment ≠ [] ∧ '"' ∉ segment := by
  obtain ⟨hsplit, hsome⟩ := List.mem_filter.mp h
  have hparts : segment ∈ Text.parts (fun c => c == '"') cs := by
    rw [Text.parts_eq_splitOnP]
    exact hsplit
  refine ⟨by simpa using hsome, ?_⟩
  intro hq
  simpa using (Text.mem_parts_iff.mp hparts).1 '"' hq

/-- Wildcards and literals take turns, a wildcard at either end, and the literals are text without
quotes. -/
structure Pattern.Alternates (p : Pattern) : Prop where
  head : p.head? = some .any
  last : p.getLast? = some .any
  turns : p.IsChain fun a b => a = .any ↔ b ≠ .any
  literals : ∀ text, .literal text ∈ p → text ≠ "" ∧ '"' ∉ text.toList

namespace Pattern

variable {p : Pattern} {cs part s : List Char} {parts segments : List (List Char)} {text : String}

/-- A wildcard, and after each segment another one. -/
def phrase (segments : List (List Char)) : Pattern :=
  .any :: segments.flatMap fun segment => [.literal (String.ofList segment), .any]

theorem phrase_cons (segment : List Char) :
    phrase (segment :: segments) = .any :: .literal (String.ofList segment) :: phrase segments := by
  simp [phrase]

theorem splits_phrase : (phrase segments).Splits s ↔ OccurInOrder segments s := by
  induction segments generalizing s with
  | nil =>
    simp only [phrase, List.flatMap_nil, splits_any, splits_nil, OccurInOrder, iff_true]
    exact ⟨s, [], (List.append_nil s).symm, rfl⟩
  | cons segment rest ih =>
    simp only [phrase_cons, splits_any, splits_literal, ih, String.toList_ofList, OccurInOrder]
    constructor
    · rintro ⟨before, _, rfl, after, rfl, h⟩
      exact ⟨before, after, by simp, h⟩
    · rintro ⟨before, after, rfl, h⟩
      exact ⟨before, segment ++ after, by simp, after, rfl, h⟩

theorem getLast?_phrase (segments : List (List Char)) : (phrase segments).getLast? = some .any := by
  induction segments with
  | nil => rfl
  | cons segment rest ih =>
    have hcons : phrase rest = .any :: (phrase rest).tail := rfl
    rw [phrase_cons, List.getLast?_cons_cons, hcons, List.getLast?_cons_cons, ← hcons, ih]

theorem isChain_phrase (segments : List (List Char)) :
    (phrase segments).IsChain fun a b => a = .any ↔ b ≠ .any := by
  induction segments with
  | nil => exact .singleton _
  | cons segment rest ih =>
    have hcons : phrase rest = .any :: (phrase rest).tail := rfl
    rw [phrase_cons, hcons]
    rw [hcons] at ih
    exact .cons_cons (by simp) (.cons_cons (by simp) ih)

theorem mem_of_mem_phrase (h : .literal text ∈ phrase segments) : text.toList ∈ segments := by
  simp only [phrase, List.mem_cons, reduceCtorEq, false_or, List.mem_flatMap] at h
  obtain ⟨segment, hsegment, ht⟩ := h
  obtain rfl : text = String.ofList segment := by simpa using ht
  simpa using hsegment

theorem alternates_phrase (h : ∀ segment ∈ segments, segment ≠ [] ∧ '"' ∉ segment) :
    (phrase segments).Alternates where
  head := rfl
  last := getLast?_phrase segments
  turns := isChain_phrase segments
  literals text ht := by
    obtain ⟨hne, hquote⟩ := h _ (mem_of_mem_phrase ht)
    exact ⟨fun hempty => hne (by simp [hempty]), hquote⟩

theorem thenAny_thenQuoted (p : Pattern) (part : List Char) :
    thenAny (thenQuoted p part) =
      thenAny p ++ if part.isEmpty then [] else [.literal (String.ofList part), .any] := by
  have hlast : (thenAny p).getLast? = some .any := by
    unfold thenAny
    split
    · assumption
    · simp
  unfold thenQuoted
  generalize thenAny p = q at hlast
  unfold thenText
  split
  · simp [thenAny, hlast]
  · simp [thenAny]

/-- By induction on the parts, whatever stands before them. -/
theorem thenAny_foldl (p : Pattern) (parts : List (List Char)) :
    thenAny (parts.foldl thenQuoted p) =
      thenAny p ++ (parts.filter (fun part => !part.isEmpty)).flatMap
        fun part => [.literal (String.ofList part), .any] := by
  induction parts generalizing p with
  | nil => simp
  | cons part rest ih =>
    rw [List.foldl_cons, ih, thenAny_thenQuoted, List.append_assoc]
    cases part <;> simp

theorem ofQuoted_quoted (inner : List Char) :
    ofQuoted ('"' :: (inner ++ ['"'])) = phrase (quotedSegments ('"' :: (inner ++ ['"']))) := by
  have hparts : Text.parts (fun c => c == '"') ('"' :: (inner ++ ['"'])) =
      [] :: (Text.parts (fun c => c == '"') inner ++ [[]]) := by
    have h := Text.parts_append_cons (p := fun c => c == '"') (c := '"') rfl inner []
    simp [Text.parts, h]
  have hsplit : ('"' :: (inner ++ ['"'])).splitOn '"' =
      [] :: (Text.parts (fun c => c == '"') inner ++ [[]]) := by
    rw [← hparts, Text.parts_eq_splitOnP]
    rfl
  have hfold := thenAny_foldl [] (Text.parts (fun c => c == '"') inner)
  have hnil : thenText [] [] = [] := rfl
  have hany : thenAny [] = [.any] := rfl
  rw [ofQuoted, hparts, quotedSegments, hsplit]
  simp only [List.foldl_append, List.foldl_cons, List.foldl_nil, hnil, thenQuoted, hfold, hany]
  simp [phrase, thenText]

end Pattern
end TableView
