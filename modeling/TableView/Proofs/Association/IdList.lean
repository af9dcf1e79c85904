import Mathlib.Data.List.Dedup
import Mathlib.Data.List.Sort
import TableView.Proofs.Association.Ids
import TableView.Proofs.Text.Signed

/-! Lists of ids in normal form: the ids that the tokens of a text spell, once each and in order,
whatever the order of the tokens, their blanks and the other tokens between them. -/
namespace TableView.Association
open Text (Spells isBlank maxInt64)

variable {raw raw' token token' : String} {tokens tokens' : List String} {ids : List Int}
  {m n : Int}

/-- A token spells a positive number of 64 bits, with or without blanks around it. -/
def SpellsId (token : String) (n : Int) : Prop :=
  0 < n ∧ n ≤ maxInt64 ∧ ∃ before number after, token.toList = before ++ number ++ after ∧
    (∀ c ∈ before, isBlank c = true) ∧ (∀ c ∈ after, isBlank c = true) ∧ Spells number n

/-- Two tokens hold the same text between blanks. -/
def SameInside (token token' : String) : Prop :=
  ∃ inside before after before' after',
    (∀ c ∈ before ++ after ++ before' ++ after', isBlank c = true) ∧
    token.toList = before ++ inside ++ after ∧ token'.toList = before' ++ inside ++ after'

/-- The tokens of a text stand between its commas. -/
structure Tokens (raw : String) (tokens : List String) : Prop where
  noComma : ∀ t ∈ tokens, ',' ∉ t.toList
  joined : raw = ",".intercalate tokens

theorem spellsId_iff :
    SpellsId token n ↔ 0 < n ∧ Text.int64? (Text.trimmed token.toList) = some n := by
  rw [Text.int64?_eq_some]
  constructor
  · rintro ⟨hpositive, hmax, before, number, after, htoken, hbefore, hafter, hspells⟩
    have hmin : Text.minInt64 ≤ n := by
      unfold Text.minInt64
      omega
    rw [htoken, Text.trimmed_padded hbefore hafter, hspells.trimmed_eq]
    exact ⟨hpositive, hspells, hmin, hmax⟩
  · rintro ⟨hpositive, hspells, -, hmax⟩
    obtain ⟨before, after, hbefore, hafter, htoken⟩ := Text.exists_padding token.toList
    exact ⟨hpositive, hmax, before, _, after, htoken, hbefore, hafter, hspells⟩

theorem SameInside.spellsId_iff (h : SameInside token token') :
    SpellsId token n ↔ SpellsId token' n := by
  obtain ⟨inside, before, after, before', after', hblank, htoken, htoken'⟩ := h
  simp only [List.forall_mem_append] at hblank
  obtain ⟨⟨⟨hbefore, hafter⟩, hbefore'⟩, hafter'⟩ := hblank
  rw [Association.spellsId_iff, Association.spellsId_iff, htoken, htoken',
    Text.trimmed_padded hbefore hafter, Text.trimmed_padded hbefore' hafter']

/-- The ids of a list are those that its tokens spell. -/
theorem Tokens.mem_parseIds (h : Tokens raw tokens) :
    n ∈ parseIds raw ↔ ∃ t ∈ tokens, SpellsId t n := by
  obtain ⟨hcommas, rfl⟩ := h
  have hsplit : ∀ ts : List (List Char), (∀ t ∈ ts, ',' ∉ t) → ts ≠ [] →
      Text.parts (· = ',') ([','].intercalate ts) = ts := by
    intro ts hts hne
    rw [Text.parts_eq_splitOnP]
    exact List.splitOn_intercalate ',' hts hne
  simp only [Association.mem_parseIds, Listed, spellsId_iff, String.toList_intercalate]
  cases tokens with
  | nil => simp [Text.parts, Text.trimmed, Text.int64?, Text.nat?]
  | cons t ts =>
    rw [show ",".toList = [','] from rfl, hsplit _ (by simpa using hcommas) (by simp)]
    simp only [List.mem_map]
    constructor
    · rintro ⟨hpositive, _, ⟨u, hu, rfl⟩, hread⟩
      exact ⟨u, hu, hpositive, hread⟩
    · rintro ⟨u, hu, hpositive, hread⟩
      exact ⟨hpositive, _, ⟨u, hu, rfl⟩, hread⟩

theorem exists_tokens (raw : String) : ∃ tokens, Tokens raw tokens := by
  refine ⟨(raw.toList.splitOn ',').map String.ofList, ⟨?_, ?_⟩⟩
  · simp only [List.forall_mem_map, String.toList_ofList]
    intro t ht hcomma
    rw [List.splitOn_eq_splitOnP, ← Text.parts_eq_splitOnP] at ht
    simpa using (Text.mem_parts_iff.mp ht).1 ',' hcomma
  · rw [← String.toList_inj, String.toList_intercalate, List.map_map]
    have hid : String.toList ∘ String.ofList = id := funext fun _ => String.toList_ofList
    rw [hid, List.map_id, show ",".toList = [','] from rfl, List.intercalate_splitOn]

/-- Each token of one list that spells an id stands in the other. -/
def Covers (tokens tokens' : List String) : Prop :=
  ∀ t ∈ tokens, (∃ t' ∈ tokens', SameInside t t') ∨ ∀ n, ¬ SpellsId t n

theorem Covers.exists_spellsId (h : Covers tokens tokens') (hn : ∃ t ∈ tokens, SpellsId t n) :
    ∃ t ∈ tokens', SpellsId t n := by
  obtain ⟨t, ht, hspells⟩ := hn
  obtain ⟨t', ht', hsame⟩ | hnone := h t ht
  · exact ⟨t', ht', hsame.spellsId_iff.mp hspells⟩
  · exact absurd hspells (hnone n)

theorem parseIds_eq_of_covers (htokens : Tokens raw tokens) (htokens' : Tokens raw' tokens')
    (h : Covers tokens tokens') (h' : Covers tokens' tokens) : parseIds raw = parseIds raw' := by
  refine (parseIds_pairwise raw).eq_of_mem_iff (parseIds_pairwise raw') fun n => ?_
  rw [htokens.mem_parseIds, htokens'.mem_parseIds]
  exact ⟨h.exists_spellsId, h'.exists_spellsId⟩

/-- An id is spelled by its decimal digits, and by these no other. -/
theorem spellsId_toString (hpositive : 0 < n) (hmax : n ≤ maxInt64) :
    SpellsId (toString n) m ↔ m = n := by
  obtain ⟨k, rfl⟩ := Int.eq_ofNat_of_zero_le hpositive.le
  have hspells : Spells (toString (k : Int)).toList k := Text.spells_toString k
  have hread : Text.int64? (Text.trimmed (toString (k : Int)).toList) = some (k : Int) := by
    rw [hspells.trimmed_eq, Text.int64?_eq_some]
    exact ⟨hspells, by unfold Text.minInt64; omega, hmax⟩
  rw [spellsId_iff, hread, Option.some.injEq]
  constructor
  · exact fun h => h.2.symm
  · rintro rfl
    exact ⟨hpositive, rfl⟩

/-- The digits of a number hold no comma. -/
theorem comma_notMem_toString (hpositive : 0 < n) : ',' ∉ (toString n).toList := by
  obtain ⟨k, rfl⟩ := Int.eq_ofNat_of_zero_le hpositive.le
  intro hcomma
  have hdigits : ',' ∈ Nat.toDigits 10 k := by
    rwa [← Nat.toList_repr, ← Nat.toString_eq_repr]
  exact absurd (Nat.isDigit_of_mem_toDigits (by decide) (by decide) hdigits) (by decide)

/-- Of the values of a list, sorted, each is below all that follow. -/
theorem pairwise_insertionSort_dedup (ids : List Int) :
    (ids.dedup.insertionSort (· ≤ ·)).Pairwise (· < ·) := by
  have hsorted := List.pairwise_insertionSort (· ≤ ·) ids.dedup
  have hdistinct : (ids.dedup.insertionSort (· ≤ ·)).Pairwise (· ≠ ·) :=
    (List.perm_insertionSort (· ≤ ·) ids.dedup).nodup_iff.mpr ids.nodup_dedup
  exact (hsorted.and hdistinct).imp fun h => Int.lt_iff_le_and_ne.mpr h

theorem parseIds_toString (h : ∀ n ∈ ids, 0 < n ∧ n ≤ maxInt64) :
    parseIds (",".intercalate (ids.map toString)) = ids.dedup.insertionSort (· ≤ ·) := by
  have htokens : Tokens (",".intercalate (ids.map toString)) (ids.map toString) :=
    ⟨List.forall_mem_map.mpr fun n hn => comma_notMem_toString (h n hn).1, rfl⟩
  refine (parseIds_pairwise _).eq_of_mem_iff (pairwise_insertionSort_dedup ids) fun m => ?_
  rw [htokens.mem_parseIds, List.mem_insertionSort, List.mem_dedup]
  constructor
  · rintro ⟨t, ht, hspells⟩
    obtain ⟨n, hn, rfl⟩ := List.mem_map.mp ht
    exact (spellsId_toString (h n hn).1 (h n hn).2).mp hspells ▸ hn
  · intro hm
    exact ⟨_, List.mem_map_of_mem hm, (spellsId_toString (h m hm).1 (h m hm).2).mpr rfl⟩

/-- What is read from a list of ids goes up and holds just the positive numbers that its tokens
spell, so that it stays the same when tokens are moved, repeated or padded with blanks, and when
others are added that spell no positive number. Any positive numbers that are written one after the
other are read back as their set, in order. -/
theorem parseIds_normal_form :
    (∀ raw, (parseIds raw).Pairwise (· < ·) ∧ (∃ tokens, Tokens raw tokens) ∧
      ∀ tokens, Tokens raw tokens → ∀ n, n ∈ parseIds raw ↔ ∃ t ∈ tokens, SpellsId t n) ∧
    (∀ raw raw' tokens tokens', Tokens raw tokens → Tokens raw' tokens' →
      Covers tokens tokens' → Covers tokens' tokens → parseIds raw = parseIds raw') ∧
    ∀ ids : List Int, (∀ n ∈ ids, 0 < n ∧ n ≤ maxInt64) →
      parseIds (",".intercalate (ids.map toString)) = ids.dedup.insertionSort (· ≤ ·) :=
  ⟨fun raw => ⟨parseIds_pairwise raw, exists_tokens raw, fun _ h _ => h.mem_parseIds⟩,
    fun _ _ _ _ => parseIds_eq_of_covers, fun _ => parseIds_toString⟩

/-- Two ids, once with a blank, a repetition and a word between them and once without. -/
theorem parseIds_normal_form_mixed :
    parseIds "3, 1,abc,3" = parseIds "1,3" ∧ parseIds "3,1,3" = [1, 3] ∧
      7 ∈ parseIds "9223372036854775808,+07" := by
  obtain ⟨hread, hsame, hwritten⟩ := parseIds_normal_form
  have hself : ∀ t, SameInside t t := fun t => ⟨t.toList, [], [], [], [], by simp⟩
  have hblank : ∀ c ∈ [' '], isBlank c = true := List.forall_mem_singleton.mpr (by decide)
  have hone : SameInside " 1" "1" ∧ SameInside "1" " 1" :=
    ⟨⟨['1'], [' '], [], [], [], hblank, rfl, rfl⟩, ⟨['1'], [], [], [' '], [], hblank, rfl, rfl⟩⟩
  have hword : ∀ n, ¬ SpellsId "abc" n := by
    intro n hn
    have hnone : Text.int64? (Text.trimmed "abc".toList) = none := by decide
    cases hnone.symm.trans (spellsId_iff.mp hn).2
  refine ⟨?_, ?_, ?_⟩
  · refine hsame _ _ ["3", " 1", "abc", "3"] ["1", "3"] ⟨by decide, by decide⟩
      ⟨by decide, by decide⟩ ?_ ?_
    · simp [Covers, hself, hone, hword]
    · simp [Covers, hself, hone]
  · have hsorted : ([3, 1, 3] : List Int).dedup.insertionSort (· ≤ ·) = [1, 3] := by decide
    exact (hwritten [3, 1, 3] (by decide)).trans hsorted
  · refine ((hread _).2.2 ["9223372036854775808", "+07"] ⟨by decide, by decide⟩ 7).mpr
      ⟨"+07", by simp, ?_⟩
    exact spellsId_iff.mpr (by decide)

end TableView.Association
