import TableView.Proofs.Aggregate.Identity
import TableView.Proofs.Json.Spelling

/-! Requests for aggregates and their keys: what is hashed is the same for the same request only. -/
namespace TableView

/-- Two texts that the digest does not tell apart. -/
def Digest.Collision (a b : String) : Prop := a ≠ b ∧ sha256Hex a = sha256Hex b

namespace AggregateOptions
open Json (Spelled chars chars_eq_iff spelled spelledFields)
variable {o p : AggregateOptions}

/-- The same options, the numbers in filter and body as they are spelled. -/
structure Agree (o p : AggregateOptions) : Prop where
  interval : o.interval = p.interval
  format : o.format = p.format
  filter : o.filter.map spelledFields = p.filter.map spelledFields
  sumOver : o.sumOver = p.sumOver
  size : o.size = p.size
  body : o.body.map spelled = p.body.map spelled

theorem spelledFields_eq_map (fields : List (String × Json)) :
    spelledFields fields = fields.map fun e => (e.1, spelled e.2) := by
  induction fields with
  | nil => rfl
  | cons e fields ih => rw [spelledFields, ih, List.map_cons]

theorem spelledFields_append (fields others : List (String × Json)) :
    spelledFields (fields ++ others) = spelledFields fields ++ spelledFields others := by
  simp only [spelledFields_eq_map, List.map_append]

theorem spelledFields_of_same {fs gs : List (String × Json)} (h : Json.SameFields fs gs) :
    spelledFields fs = spelledFields gs := by
  induction h with
  | nil => rfl
  | cons hfirst _ ih =>
    obtain ⟨hkey, hvalue⟩ := hfirst
    rw [spelledFields, spelledFields, hkey, chars_eq_iff.mp hvalue, ih]

theorem map_spelled_of_chars {v w : Option Json} (h : v.map chars = w.map chars) :
    v.map spelled = w.map spelled := by
  cases v with
  | none => cases w <;> simp_all
  | some j =>
    cases w with
    | none => simp at h
    | some k => exact congrArg some (chars_eq_iff.mp (Option.some.inj h))

theorem Alike.agree (h : o.Alike p) : o.Agree p where
  interval := h.interval
  format := h.format
  filter := by
    have hfilter := h.filter
    generalize o.filter = v, p.filter = w at hfilter
    cases hfilter with
    | none => rfl
    | some hsame => exact congrArg some (spelledFields_of_same hsame)
  sumOver := h.sumOver
  size := h.size
  body := map_spelled_of_chars h.body

/-- Options that are the same in what decides their spelling are spelled the same. -/
theorem spelledFields_entry {α β : Type} {key : String} {encode : α → Json} {v w : Option α}
    {value : α → β} (spell : β → Spelled) (hencode : ∀ a, spelled (encode a) = spell (value a))
    (h : v.map value = w.map value) :
    spelledFields (entry key encode v) = spelledFields (entry key encode w) := by
  cases v with
  | none => cases w <;> simp_all
  | some a =>
    cases w with
    | none => simp at h
    | some b =>
      have hvalue : value a = value b := Option.some.inj h
      simp [entry, spelledFields, hencode, hvalue]

theorem Agree.spelled_toJson (h : o.Agree p) : spelled o.toJson = spelled p.toJson := by
  have hfilter : spelledFields (entry "filter" .obj o.filter) =
      spelledFields (entry "filter" .obj p.filter) :=
    spelledFields_entry .obj (fun _ => rfl) h.filter
  have hbody : spelledFields (entry "body" id o.body) = spelledFields (entry "body" id p.body) :=
    spelledFields_entry id (fun _ => rfl) h.body
  have hsums : o.sums? = p.sums? := by rw [sums?, sums?, h.sumOver]
  rw [toJson_eq, toJson_eq, spelled, spelled]
  simp only [entries, spelledFields_append, h.interval, h.format, hfilter, hsums, h.size, hbody]

/-- Options have the same text just when they agree. -/
theorem chars_toJson_iff : chars o.toJson = chars p.toJson ↔ o.Agree p :=
  ⟨fun h => (alike_of_chars h).agree, fun h => chars_eq_iff.mpr h.spelled_toJson⟩

end AggregateOptions

/-- The text that is hashed is the same for two requests just when these have the same field, the
same kind and the same options; so they share a key in no other case, unless the digest fails to
tell the two texts apart. -/
theorem AggregateSpec.key_identifies (s t : AggregateSpec) :
    (s.identity = t.identity ↔
      s.field = t.field ∧ s.kind = t.kind ∧ s.options.Agree t.options) ∧
    (s.key = t.key ↔ (s.field = t.field ∧ s.kind = t.kind ∧ s.options.Agree t.options) ∨
      Digest.Collision s.identity t.identity) := by
  have hidentity : s.identity = t.identity ↔
      s.field = t.field ∧ s.kind = t.kind ∧ s.options.Agree t.options := by
    constructor
    · intro h
      obtain ⟨hfield, hkind, halike⟩ := alike_of_identity h
      exact ⟨hfield, hkind, halike.agree⟩
    · rintro ⟨hfield, hkind, hagree⟩
      rw [← String.toList_inj, identity_toList, identity_toList, hfield, hkind,
        AggregateOptions.chars_toJson_iff.mpr hagree]
  refine ⟨hidentity, ?_⟩
  rw [← hidentity]
  constructor
  · intro hkey
    by_cases hsame : s.identity = t.identity
    · exact Or.inl hsame
    · exact Or.inr ⟨hsame, hkey⟩
  · rintro (hsame | ⟨-, hdigest⟩)
    · exact congrArg Digest.sha256Hex hsame
    · exact hdigest

end TableView
