import TableView.Proofs.Pattern.Quoted
import TableView.Term.Text

/-! What a fuzzy text term asks of a value: all its words in any order, or the text between its
quotes in the order in which it is written. -/
namespace TableView.Term
open Text (lower trimmed isBlank IsRun)

/-- A term as it is read: in lower case and without blanks at either end. -/
def tidied (raw : String) : List Char := trimmed (lower raw).toList

/-- At least two characters, a quote first and a quote last. -/
def IsPhrase (cs : List Char) : Prop := ∃ inner, cs = '"' :: (inner ++ ['"'])

variable {cs s : List Char}

theorem isQuoted_iff : isQuoted cs = true ↔ IsPhrase cs := by
  constructor
  · intro h
    simp only [isQuoted, Bool.and_eq_true, decide_eq_true_eq] at h
    obtain ⟨⟨hlength, hhead⟩, hlast⟩ := h
    obtain ⟨rest, rfl⟩ := List.head?_eq_some_iff.mp hhead
    cases rest with
    | nil => simp at hlength
    | cons c rest =>
      rw [List.getLast?_cons_cons] at hlast
      obtain ⟨inner, hinner⟩ := List.getLast?_eq_some_iff.mp hlast
      exact ⟨inner, by rw [hinner]⟩
  · rintro ⟨inner, rfl⟩
    have hlast : ('"' :: (inner ++ ['"'])).getLast? = some '"' :=
      List.getLast?_eq_some_iff.mpr ⟨'"' :: inner, rfl⟩
    simp [isQuoted, hlast]

theorem patterns_of_phrase (h : IsPhrase cs) : patterns cs = [.phrase (quotedSegments cs)] := by
  rw [patterns, if_pos (isQuoted_iff.mpr h)]
  obtain ⟨inner, rfl⟩ := h
  rw [Pattern.ofQuoted_quoted]

theorem patterns_of_words (h : ¬ IsPhrase cs) :
    patterns cs = (Text.words cs).map fun word => .containing (String.ofList word) := by
  rw [patterns, if_neg fun hq => h (isQuoted_iff.mp hq)]

theorem patterns_trimmed_ne_nil (h : trimmed cs ≠ []) : patterns (trimmed cs) ≠ [] := by
  unfold patterns
  split
  · simp
  · simpa using Text.words_trimmed_ne_nil h

theorem splits_words : (∀ p ∈ (Text.words cs).map fun word =>
    Pattern.containing (String.ofList word), p.Splits s) ↔
      ∀ word, IsRun (fun c => !isBlank c) cs word → word <:+: s := by
  simp only [List.forall_mem_map, Pattern.splits_containing, String.toList_ofList, Text.words,
    Text.mem_runs_iff]

variable {o : SearchOptions} {raw : String}

theorem text_of_tidied (ho : o.fuzzy = true) (h : tidied raw ≠ []) :
    text o raw = .ok (.allOf (patterns (tidied raw))) := by
  rw [text, if_pos ho]
  split
  · next hnil => exact absurd hnil (patterns_trimmed_ne_nil h)
  · rfl

theorem text_of_tidied_eq_nil (ho : o.fuzzy = true) (h : tidied raw = []) :
    text o raw = .error (.unparseable "text" raw) := by
  rw [tidied] at h
  rw [text, if_pos ho, h]
  rfl

/-- A fuzzy term is refused just when nothing is left of it. Without quotes around it a value has
to hold each of its words; with them, what stands between the quotes in that order. -/
theorem text_fuzzy (ho : o.fuzzy = true) (raw : String) :
    ((∃ e, text o raw = .error e) ↔ tidied raw = []) ∧
      (tidied raw ≠ [] → ¬ IsPhrase (tidied raw) → ∃ ps, text o raw = .ok (.allOf ps) ∧
        ∀ v : String, (∀ p ∈ ps, p.Splits v.toList) ↔
          ∀ word, IsRun (fun c => !isBlank c) (tidied raw) word → word <:+: v.toList) ∧
      (IsPhrase (tidied raw) → ∃ p, text o raw = .ok (.allOf [p]) ∧ p.Alternates ∧
        ∀ v : String, p.Splits v.toList ↔
          OccurInOrder (quotedSegments (tidied raw)) v.toList) := by
  refine ⟨⟨?_, fun h => ⟨_, text_of_tidied_eq_nil ho h⟩⟩, ?_, ?_⟩
  · rintro ⟨e, he⟩
    by_contra hne
    rw [text_of_tidied ho hne] at he
    cases he
  · intro hne hphrase
    refine ⟨_, text_of_tidied ho hne, fun v => ?_⟩
    rw [patterns_of_words hphrase]
    exact splits_words
  · intro hphrase
    have hne : tidied raw ≠ [] := by
      obtain ⟨inner, ht⟩ := hphrase
      simp [ht]
    refine ⟨_, patterns_of_phrase hphrase ▸ text_of_tidied ho hne, ?_, ?_⟩
    · exact Pattern.alternates_phrase fun _ h => of_mem_quotedSegments h
    · exact fun v => Pattern.splits_phrase

/-- Quotes in a row are one wildcard, and the values hold the segments in their order. -/
theorem text_fuzzy_doubled_quotes : ({} : SearchOptions).fuzzy = true ∧
    (∃ p, text {} " \"Jane\"\" Doe\"" = .ok (.allOf [p]) ∧ p.Alternates ∧
      ∀ v : String, p.Splits v.toList ↔
        OccurInOrder ["jane".toList, " doe".toList] v.toList) := by
  have ht : tidied " \"Jane\"\" Doe\"" = "\"jane\"\" doe\"".toList := by decide +kernel
  have hphrase : IsPhrase (tidied " \"Jane\"\" Doe\"") :=
    ⟨"jane\"\" doe".toList, by rw [ht]; decide +kernel⟩
  have hsegments : quotedSegments "\"jane\"\" doe\"".toList = ["jane".toList, " doe".toList] := by
    decide +kernel
  have h := (text_fuzzy (o := {}) rfl " \"Jane\"\" Doe\"").2.2 hphrase
  rw [ht, hsegments] at h
  exact ⟨rfl, h⟩

end TableView.Term
