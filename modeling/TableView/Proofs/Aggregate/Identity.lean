import TableView.Aggregate.Compile
import TableView.Proofs.Fields
import TableView.Proofs.Json.Text

/-! What tells one request for an aggregate from another: its identity determines the field, the
kind and the options up to the spelling of numbers, and so what it compiles to. -/
namespace TableView

namespace AggregateOptions
open Json (chars SameFields)
variable {o p : AggregateOptions}

/-- A field that is there when the option is set. -/
def entry {α : Type} (key : String) (encode : α → Json) (v : Option α) : Fields Json :=
  (v.map fun a => (key, encode a)).toList

theorem get?_entry {α : Type} (key k : String) (encode : α → Json) (v : Option α) :
    (entry key encode v).get? k = if key = k then v.map encode else none := by
  cases v <;> simp [entry]

def sums? (o : AggregateOptions) : Option (List String) :=
  if o.sumOver.isEmpty then none else some o.sumOver

def strings (ss : List String) : Json := .arr (ss.map .str)

def entries (o : AggregateOptions) : Fields Json :=
  entry "interval" .str o.interval ++ entry "format" .str o.format ++
    entry "filter" .obj o.filter ++ entry "sum_over" strings o.sums? ++
    entry "size" (fun n => .nat n.toNat) o.size ++ entry "body" id o.body

theorem toJson_eq (o : AggregateOptions) : o.toJson = .obj o.entries := by
  simp only [toJson, entries, entry, sums?, Option.map_map]
  split <;> rfl

/-- The same options but for the spelling of equal numbers in filters and bodies. -/
structure Alike (o p : AggregateOptions) : Prop where
  interval : o.interval = p.interval
  format : o.format = p.format
  filter : Option.Rel SameFields o.filter p.filter
  sumOver : o.sumOver = p.sumOver
  size : o.size = p.size
  body : o.body.map chars = p.body.map chars

/-- An option whose encoding has the same text in both is the same in both. -/
theorem eq_of_map_chars {α : Type} {encode : α → Json} {v w : Option α}
    (hinj : ∀ a b, chars (encode a) = chars (encode b) → a = b)
    (h : (v.map encode).map chars = (w.map encode).map chars) : v = w := by
  cases v with
  | none => cases w <;> simp_all
  | some a =>
    cases w with
    | none => simp at h
    | some b => exact congrArg some (hinj a b (Option.some.inj h))

theorem toNat_inj_of_chars {m n : UInt32}
    (h : chars (.nat m.toNat) = chars (.nat n.toNat)) : m = n := by
  have hdigits : Nat.toDigits 10 m.toNat = Nat.toDigits 10 n.toNat := by
    rw [← Nat.toList_repr, ← Nat.toList_repr]
    exact h
  have hread := congrArg (Nat.ofDigitChars 10 · 0) hdigits
  simp only [Nat.ofDigitChars_toDigits (show 1 < 10 by omega) (Nat.le_refl 10)] at hread
  exact UInt32.toNat_inj.mp hread

theorem strings_inj {ss ts : List String} (h : chars (strings ss) = chars (strings ts)) :
    ss = ts := by
  simp only [strings, chars, List.cons_append, List.cons.injEq, true_and,
    List.append_cancel_right_eq] at h
  exact Json.eq_of_itemChars h

theorem sums?_inj (h : o.sums? = p.sums?) : o.sumOver = p.sumOver := by
  unfold sums? at h
  split at h <;> split at h <;> simp_all

theorem rel_of_map_chars {v w : Option (Fields Json)}
    (h : (v.map Json.obj).map chars = (w.map Json.obj).map chars) : Option.Rel SameFields v w := by
  cases v with
  | none =>
    cases w with
    | none => exact .none
    | some w => simp at h
  | some v =>
    cases w with
    | none => simp at h
    | some w =>
      refine .some (Json.sameFields_of_fieldChars ?_)
      simpa [chars] using h

/-- No two options have the same name. -/
theorem get?_entries (o : AggregateOptions) :
    o.entries.get? "interval" = o.interval.map .str ∧ o.entries.get? "format" = o.format.map .str ∧
    o.entries.get? "filter" = o.filter.map .obj ∧ o.entries.get? "sum_over" = o.sums?.map strings ∧
    o.entries.get? "size" = o.size.map (fun n => .nat n.toNat) ∧
    o.entries.get? "body" = o.body := by
  simp [entries, Fields.get?_append, get?_entry]

/-- Options of equal text are alike. -/
theorem alike_of_chars (h : chars o.toJson = chars p.toJson) : o.Alike p := by
  have hsame : SameFields o.entries p.entries := by
    apply Json.sameFields_of_fieldChars
    simpa [toJson_eq, chars] using h
  obtain ⟨hi, hf, hfilter, hsums, hsize, hbody⟩ := get?_entries o
  obtain ⟨hi', hf', hfilter', hsums', hsize', hbody'⟩ := get?_entries p
  have hget := hsame.get?
  have hquoted : ∀ a b : String, chars (.str a) = chars (.str b) → a = b :=
    fun _ _ h => Json.quotedChars_inj h
  constructor
  case interval => exact eq_of_map_chars hquoted (by rw [← hi, ← hi']; exact hget "interval")
  case format => exact eq_of_map_chars hquoted (by rw [← hf, ← hf']; exact hget "format")
  case filter => exact rel_of_map_chars (by rw [← hfilter, ← hfilter']; exact hget "filter")
  case sumOver =>
    apply sums?_inj
    apply eq_of_map_chars fun _ _ h => strings_inj h
    rw [← hsums, ← hsums']
    exact hget "sum_over"
  case size =>
    apply eq_of_map_chars (fun _ _ h => toNat_inj_of_chars h)
    rw [← hsize, ← hsize']
    exact hget "size"
  case body => rw [← hbody, ← hbody']; exact hget "body"

def names : List String := ["interval", "format", "filter", "sum_over", "size", "body"]

theorem mem_names_of_entries {e : String × Json} (he : e ∈ o.entries) : e.1 ∈ names := by
  have hentry : ∀ {α : Type} (key : String) (f : α → Json) (v : Option α),
      e ∈ entry key f v → e.1 = key := by
    intro α key f v h
    cases v <;> simp_all [entry]
  simp only [entries, List.mem_append] at he
  obtain ((((he | he) | he) | he) | he) | he := he <;> simp [names, hentry _ _ _ he]

/-- Inside of a string, an object that starts with one of the names ends the string too early. -/
theorem run_name {key : String} (hkey : key ∈ names) (d : Nat) (cs : List Char) :
    Json.Place.run (d, .inString) ('\x7b' :: (Json.quotedChars key ++ cs)) = none := by
  simp only [names, List.mem_cons, List.not_mem_nil, or_false] at hkey
  rcases hkey with rfl | rfl | rfl | rfl | rfl | rfl <;> rfl

/-- The text of options does not stand behind an underscore in JSON text. -/
theorem ne_after_underscore (o : AggregateOptions) (j : Json) (cs : List Char) :
    chars j ≠ cs ++ '_' :: chars o.toJson := by
  intro h
  obtain ⟨p, hp, hrun⟩ := Json.Place.run_chars 0 j
  rw [h] at hrun
  -- behind an underscore the scan is in a string, and the options would end there
  obtain ⟨d, hstring⟩ := Json.Place.run_underscore (by rw [hrun]; simp)
  rw [hrun, toJson_eq, chars] at hstring
  cases he : o.entries with
  | nil =>
    rw [he] at hstring
    obtain rfl : p = .inString := congrArg Prod.snd (Option.some.inj hstring)
    rcases hp with hp | hp <;> cases hp
  | cons e rest =>
    obtain ⟨key, value⟩ := e
    have hkey : key ∈ names := mem_names_of_entries (o := o) (e := (key, value)) (by simp [he])
    rw [he, Json.fieldChars_cons, List.cons_append, List.append_assoc, run_name hkey] at hstring
    cases hstring

end AggregateOptions

/-- No kind's name ends in another's behind an underscore. -/
theorem AggregateKind.word_apart (k l : AggregateKind) (cs : List Char) :
    k.word.toList ≠ cs ++ '_' :: l.word.toList := by
  intro h
  have hsuffix : '_' :: l.word.toList <:+ k.word.toList := ⟨cs, h.symm⟩
  revert hsuffix
  cases k <;> cases l <;> decide

theorem AggregateKind.word_inj {k l : AggregateKind} (h : k.word = l.word) : k = l := by
  revert h
  cases k <;> cases l <;> decide

/-- What stands behind the same character is the same, unless one of both holds the character
and the other behind it. -/
theorem split_inj {c : Char} {as bs cs ds : List Char} (h : as ++ c :: cs = bs ++ c :: ds)
    (hcs : ∀ es, cs ≠ es ++ c :: ds) (hds : ∀ es, ds ≠ es ++ c :: cs) : as = bs ∧ cs = ds := by
  obtain ⟨es, hbs, he⟩ | ⟨es, has, he⟩ := List.append_eq_append_iff.mp h
  · cases es with
    | nil => simp_all
    | cons e es =>
      exact absurd (List.cons.inj he).2 (hcs es)
  · cases es with
    | nil => simp_all
    | cons e es => exact absurd (List.cons.inj he).2 (hds es)

namespace AggregateSpec
open Index (Aggregation Clause Grouping)
open Json (chars SameFields)
variable {s t : AggregateSpec}

theorem identity_toList (s : AggregateSpec) : s.identity.toList =
    (s.field.toList ++ '_' :: s.kind.word.toList) ++ '_' :: chars s.options.toJson := by
  simp [identity, Json.compact, String.toList_append]

/-- Requests of one identity have the same field and kind, and options that are alike. -/
theorem alike_of_identity (h : s.identity = t.identity) :
    s.field = t.field ∧ s.kind = t.kind ∧ s.options.Alike t.options := by
  have h := congrArg String.toList h
  rw [identity_toList, identity_toList] at h
  obtain ⟨hhead, hoptions⟩ := split_inj h (AggregateOptions.ne_after_underscore _ _)
    (AggregateOptions.ne_after_underscore _ _)
  obtain ⟨hfield, hkind⟩ := split_inj hhead (AggregateKind.word_apart _ _)
    (AggregateKind.word_apart _ _)
  exact ⟨String.toList_inj.mp hfield, AggregateKind.word_inj (String.toList_inj.mp hkind),
    AggregateOptions.alike_of_chars hoptions⟩

theorem text_single {j k : Json} (h : chars j = chars k) (key : String) :
    chars (Clause.single key j) = chars (Clause.single key k) := by
  simp only [Clause.single, chars, Json.fieldChars, h]

theorem text_allOf {cs ds : List Clause}
    (h : List.Forall₂ (fun c d => chars c.toJson = chars d.toJson) cs ds) :
    chars (Clause.allOf cs).toJson = chars (Clause.allOf ds).toJson := by
  have hlist : Json.itemChars (Clause.listToJson cs) = Json.itemChars (Clause.listToJson ds) := by
    induction h with
    | nil => rfl
    | @cons c d cs ds hcd hrest ih =>
      simp only [Clause.listToJson, Json.itemChars_cons, hcd]
      cases hrest with
      | nil => rfl
      | cons h hrest => exact congrArg (fun text => _ ++ ',' :: text) ih
  have hall : chars (Clause.all cs).toJson = chars (Clause.all ds).toJson := by
    simp only [Clause.toJson, Clause.onField]
    apply text_single
    apply text_single
    simp only [chars, hlist]
  cases h with
  | nil => exact hall
  | cons h hrest =>
    cases hrest with
    | nil => exact h
    | cons _ _ => exact hall

theorem text_documentFilter (hfield : s.field = t.field)
    (hfilter : Option.Rel SameFields s.options.filter t.options.filter) :
    chars s.documentFilter.toJson = chars t.documentFilter.toJson := by
  have hsame : SameFields (s.options.filter.getD []) (t.options.filter.getD []) := by
    generalize s.options.filter = v, t.options.filter = w at hfilter
    cases hfilter with
    | none => exact .nil
    | some h => exact h
  unfold documentFilter
  generalize s.options.filter.getD [] = fs, t.options.filter.getD [] = gs at hsame ⊢
  cases hsame with
  | nil => simp only [hfield]
  | @cons e f fs gs hef hrest =>
    have hterm : ∀ e f : String × Json, (e.1 = f.1 ∧ chars e.2 = chars f.2) →
        chars (Clause.term e.1 e.2).toJson = chars (Clause.term f.1 f.2).toJson := by
      intro e f ⟨hkey, hvalue⟩
      rw [Clause.toJson, Clause.toJson, hkey]
      exact text_single (text_single hvalue _) _
    apply text_allOf
    exact List.forall₂_map_left_iff.mpr (List.forall₂_map_right_iff.mpr
      (.cons (hterm e f hef) (hrest.imp hterm)))

/-- What the index is asked for, as text. -/
def compiledText (s : AggregateSpec) (σ : Settings) : Except Error (List Char) :=
  (s.compile σ).map fun a => chars a.toJson

theorem text_filtered {c d : Clause} (h : chars c.toJson = chars d.toJson) (a : Aggregation) :
    chars (Aggregation.filtered c a).toJson = chars (Aggregation.filtered d a).toJson := by
  simp only [Aggregation.toJson, chars, Json.fieldChars, h]

/-- Requests of one identity ask for the same aggregation. -/
theorem compiledText_congr (h : s.identity = t.identity) (σ : Settings) :
    s.compiledText σ = t.compiledText σ := by
  obtain ⟨hfield, hkind, ho⟩ := alike_of_identity h
  have hterms : s.byTerms σ = t.byTerms σ := by rw [byTerms, byTerms, hfield, ho.size]
  have hdate : s.byDate = t.byDate := by rw [byDate, byDate, hfield, ho.interval, ho.format]
  have hfiltered : ∀ a : Aggregation, chars (Aggregation.filtered s.documentFilter a).toJson =
      chars (Aggregation.filtered t.documentFilter a).toJson :=
    text_filtered (text_documentFilter hfield ho.filter)
  have hmissing : ∀ option : String,
      (s.missing option : Except Error Aggregation) = t.missing option := by
    intro option
    rw [missing, missing, hkind, hfield]
  have hsummed : ∀ g : Grouping, (s.summed g).map (chars ·.toJson) =
      (t.summed g).map (chars ·.toJson) := by
    intro g
    unfold summed
    rw [ho.sumOver]
    cases t.options.sumOver with
    | nil => simp only [hmissing]
    | cons field _ => exact congrArg Except.ok (hfiltered _)
  unfold compiledText compile
  rw [hkind]
  cases t.kind with
  | termsCount => rw [hterms]
  | dateHistogramCount => rw [hdate]
  | dateHistogramSumWithFilter => rw [hdate]; exact hsummed _
  | filteredTermsSum => rw [hterms]; exact hsummed _
  | filteredTermsMultiSum =>
    simp only [ho.sumOver, hterms, hmissing]
    split
    · rfl
    · exact congrArg Except.ok (hfiltered _)
  | raw =>
    have hbody := ho.body
    cases hs : s.options.body with
    | none =>
      cases ht : t.options.body with
      | none => simp only [hmissing]
      | some b => simp [hs, ht] at hbody
    | some a =>
      cases ht : t.options.body with
      | none => simp [hs, ht] at hbody
      | some b =>
        rw [hs, ht] at hbody
        exact congrArg Except.ok (Option.some.inj hbody)

end AggregateSpec
end TableView
