import TableView.Proofs.Association.Resolution
import TableView.Proofs.Query.Writing
import TableView.Proofs.Sql.Bare
import TableView.Proofs.Sql.Statements

/-! Search terms decide what is bound to statements, never how these read: two runs on terms of the
same shape send the same SQL. -/
namespace TableView
open Sql

namespace Call

/-- The same call with no values in its statement; a question about columns has no statement. -/
def bare? : Call → Option Call
  | columns _ => none
  | pluckIds f => some (pluckIds f.bare)
  | select f => some (select f.bare)
  | size r => some (size r.bare)
  | count f => some (count f.bare)
  | search body => some (search body)

theorem bare?_of_columns {asked : List Call} (h : ∀ call ∈ asked, ∃ t, call = columns t) :
    asked.filterMap bare? = [] := by
  rw [List.filterMap_eq_nil_iff]
  intro call hcall
  obtain ⟨t, rfl⟩ := h call hcall
  rfl

end Call

namespace Session
variable {α β α' β' : Type} {R : α → β → Prop} {S : α' → β' → Prop} {x : Session α} {y : Session β}
  {f : α → Session α'} {g : β → Session β'} {h₁ h₂ h₁' h₂' : List Call} {a : α} {b : β}

/-- Run on their own histories, two sessions make the same calls but for bound values and questions
about columns, and end in related results or in one and the same error. -/
def Agree (R : α → β → Prop) (x : Session α) (y : Session β) (h₁ h₂ : List Call) : Prop :=
  (∃ new₁ new₂, (x h₁).2 = h₁ ++ new₁ ∧ (y h₂).2 = h₂ ++ new₂ ∧
    new₁.filterMap Call.bare? = new₂.filterMap Call.bare?) ∧
  ((∃ a b, (x h₁).1 = .ok a ∧ (y h₂).1 = .ok b ∧ R a b) ∨
    ∃ e, (x h₁).1 = .error e ∧ (y h₂).1 = .error e)

namespace Agree

theorem pure (hr : R a b) : Agree R (pure a) (pure b) h₁ h₂ :=
  ⟨⟨[], [], by simp, by simp, rfl⟩, Or.inl ⟨a, b, rfl, rfl, hr⟩⟩

theorem ofExcept {x : Except Error α} {y : Except Error β}
    (hr : (∃ a b, x = .ok a ∧ y = .ok b ∧ R a b) ∨ ∃ e, x = .error e ∧ y = .error e) :
    Agree R (ofExcept x) (ofExcept y) h₁ h₂ :=
  ⟨⟨[], [], by simp, by simp, rfl⟩, hr⟩

theorem ofExcept_self (x : Except Error α) :
    Agree Eq (Session.ofExcept x) (Session.ofExcept x) h₁ h₂ := by
  cases x with
  | ok a => exact .pure rfl
  | error e => exact .ofExcept (Or.inr ⟨e, rfl, rfl⟩)

theorem bind (hx : Agree R x y h₁ h₂)
    (hf : ∀ a b h₁' h₂', x h₁ = (.ok a, h₁') → y h₂ = (.ok b, h₂') → R a b →
      Agree S (f a) (g b) h₁' h₂') : Agree S (x >>= f) (y >>= g) h₁ h₂ := by
  obtain ⟨⟨new₁, new₂, hn₁, hn₂, hnew⟩, hr⟩ := hx
  rcases hx₁ : x h₁ with ⟨rx, h₁'⟩
  rcases hy₂ : y h₂ with ⟨ry, h₂'⟩
  rw [hx₁] at hn₁ hr
  rw [hy₂] at hn₂ hr
  rcases hr with ⟨a, b, rfl, rfl, hr⟩ | ⟨e, rfl, rfl⟩
  · obtain ⟨⟨more₁, more₂, hm₁, hm₂, hmore⟩, hs⟩ := hf a b h₁' h₂' hx₁ hy₂ hr
    unfold Agree
    rw [bind_of_ok hx₁, bind_of_ok hy₂]
    refine ⟨⟨new₁ ++ more₁, new₂ ++ more₂, ?_, ?_, ?_⟩, hs⟩
    · rw [hm₁, show h₁' = h₁ ++ new₁ from hn₁, List.append_assoc]
    · rw [hm₂, show h₂' = h₂ ++ new₂ from hn₂, List.append_assoc]
    · simp only [List.filterMap_append, hnew, hmore]
  · unfold Agree
    rw [bind_of_error hx₁, bind_of_error hy₂]
    exact ⟨⟨new₁, new₂, hn₁, hn₂, hnew⟩, Or.inr ⟨e, rfl, rfl⟩⟩

end Agree
end Session

/-- Terms that were read in the same way, whatever their values; text gave as many patterns. -/
inductive ParsedTerm.SameShape : ParsedTerm → ParsedTerm → Prop
  | blank : SameShape (.text .blank) (.text .blank)
  | equals (s t : String) : SameShape (.text (.equals s)) (.text (.equals t))
  | patterns {ps qs : List Pattern} (h : ps.length = qs.length) :
    SameShape (.text (.allOf ps)) (.text (.allOf qs))
  | integer (m n : Int) : SameShape (.integer m) (.integer n)
  | decimal (d e : Decimal.Bounded) : SameShape (.decimal d) (.decimal e)
  | cents (m n : Int) : SameShape (.cents m) (.cents n)
  | boolean (a b : Bool) : SameShape (.boolean a) (.boolean b)
  | year (m n : Int) : SameShape (.year m) (.year n)
  | range (p q : Period) : SameShape (.range p) (.range q)
  | id (m n : Int) : SameShape (.id m) (.id n)
  | noMatch : SameShape .noMatch .noMatch
  | polymorphic (s i t j : String) : SameShape (.polymorphic s i) (.polymorphic t j)

/-- What two terms came to on a column: both dropped out, or both have a value of one shape, or both
found as many owners, from as many ids where ids are listed. -/
inductive SameOutcome (c : ColumnData) (raw₁ raw₂ : String) :
    Option TermMeaning → Option TermMeaning → Prop
  | dropped : SameOutcome c raw₁ raw₂ none none
  | value {t₁ t₂ : ParsedTerm} (h : t₁.SameShape t₂) :
    SameOutcome c raw₁ raw₂ (some (.value t₁)) (some (.value t₂))
  | owners {key₁ key₂ : String} {ids₁ ids₂ : List Int} (h : ids₁.length = ids₂.length)
    (hlisted : c.associationMode = .idList →
      (Association.parseIds raw₁).length = (Association.parseIds raw₂).length) :
    SameOutcome c raw₁ raw₂ (some (.owners key₁ ids₁)) (some (.owners key₂ ids₂))

/-- Two lists of terms that name the same columns and come to the same outcomes, as one term is read
after the other on each side. -/
inductive SameShapes (r₁ r₂ : TermReader) (registry : Registry) :
    List SearchTerm → List SearchTerm → List Call → List Call → Prop
  | nil {h₁ h₂ : List Call} : SameShapes r₁ r₂ registry [] [] h₁ h₂
  | unknown {name raw₁ raw₂ : String} {rest₁ rest₂ : List SearchTerm} {h₁ h₂ : List Call}
    (hc : registry.lookup? name = none) (hrest : SameShapes r₁ r₂ registry rest₁ rest₂ h₁ h₂) :
    SameShapes r₁ r₂ registry ((name, raw₁) :: rest₁) ((name, raw₂) :: rest₂) h₁ h₂
  | known {name raw₁ raw₂ : String} {rest₁ rest₂ : List SearchTerm} {h₁ h₂ h₁' h₂' : List Call}
    {c : Column} {m₁ m₂ : Option TermMeaning} (hc : registry.lookup? name = some c)
    (hm₁ : r₁.read c.toColumnData raw₁ h₁ = (.ok m₁, h₁'))
    (hm₂ : r₂.read c.toColumnData raw₂ h₂ = (.ok m₂, h₂'))
    (hm : SameOutcome c.toColumnData raw₁ raw₂ m₁ m₂)
    (hrest : SameShapes r₁ r₂ registry rest₁ rest₂ h₁' h₂') :
    SameShapes r₁ r₂ registry ((name, raw₁) :: rest₁) ((name, raw₂) :: rest₂) h₁ h₂

/-- Stores of one dialect and one schema, which stays as it is; they may hold different data. -/
structure RecordStore.SameSchema (s₁ s₂ : RecordStore) : Prop where
  capabilities : s₁.capabilities = s₂.capabilities
  association : s₁.association = s₂.association
  columns : ∀ h₁ h₂ table, s₁.columns h₁ table = s₂.columns h₂ table

namespace Sql.Predicate
variable {c : ColumnData} {field : String}

theorem foldl_bare {op : Predicate → Predicate → Predicate} {p : Predicate} {ps : List Predicate}
    (hop : ∀ a b, (op a b).bare = op a.bare b.bare) :
    (ps.foldl op p).bare = (ps.map bare).foldl op p.bare := by
  induction ps generalizing p with
  | nil => rfl
  | cons q ps ih => rw [List.foldl_cons, ih, hop, List.map_cons, List.foldl_cons]

theorem allOf_bare (ps : List Predicate) : (allOf ps).bare = allOf (ps.map bare) := by
  cases ps with
  | nil => rfl
  | cons p ps => exact foldl_bare fun _ _ => rfl

theorem anyOf?_bare (ps : List Predicate) : (anyOf? ps).map bare = anyOf? (ps.map bare) := by
  cases ps with
  | nil => rfl
  | cons p ps => exact congrArg some (foldl_bare fun _ _ => rfl)

theorem ofText_bare (patterns : List Pattern) :
    (ofText field (.allOf patterns)).bare =
      allOf (List.replicate patterns.length (like field "")) := by
  have hlike : bare ∘ (fun p => like field (pattern p)) = fun _ => like field "" := rfl
  rw [ofText, allOf_bare, List.map_map, hlike, List.map_const']

theorem ofTerm_bare {t₁ t₂ : ParsedTerm} (h : t₁.SameShape t₂) :
    (ofTerm c t₁).bare = (ofTerm c t₂).bare := by
  cases h with
  | patterns h => simp only [ofTerm, ofText_bare, h]
  | range p q =>
    simp only [ofTerm, ofRange]
    split <;> rfl
  | blank | equals _ _ | integer _ _ | decimal _ _ | cents _ _ | boolean _ _ | year _ _ | id _ _
  | noMatch | polymorphic _ _ _ _ => rfl

end Sql.Predicate

namespace Association
variable {a : Association} {s₁ s₂ : AssociationSource} {mode : AssociationMode}
  {raw₁ raw₂ : String} {p₁ p₂ : Predicate} {h₁ h₂ : List Call}

theorem searchedFields_congr (hcolumns : ∀ h₁ h₂ table, s₁.columns h₁ table = s₂.columns h₂ table)
    (a : Association) (field : Option String) (h₁ h₂ : List Call) :
    (searchedFields s₁ a field h₁).1 = (searchedFields s₂ a field h₂).1 := by
  cases field with
  | some f => rfl
  | none => rw [searchedFields_none, searchedFields_none, hcolumns h₁ h₂]

/-- Both terms ask for related rows by the same text, where as many ids are listed. -/
theorem related_bare (hcolumns : ∀ h₁ h₂ table, s₁.columns h₁ table = s₂.columns h₂ table)
    (hlisted : mode = .idList → (parseIds raw₁).length = (parseIds raw₂).length)
    (hr₁ : (a.related? s₁ mode raw₁ h₁).1 = .ok (some p₁))
    (hr₂ : (a.related? s₂ mode raw₂ h₂).1 = .ok (some p₂)) : p₁.bare = p₂.bare := by
  obtain ⟨rfl, rfl⟩ | ⟨field, fields, rfl, hf₁, hp₁⟩ := related?_cases hr₁
  · obtain ⟨-, rfl⟩ | ⟨_, _, hmode, -⟩ := related?_cases hr₂
    · simp only [Predicate.bare, hlisted rfl]
    · cases hmode
  · obtain ⟨hmode, -⟩ | ⟨_, fields', hmode, hf₂, hp₂⟩ := related?_cases hr₂
    · cases hmode
    · cases hmode
      have hfields := searchedFields_congr hcolumns a field h₁ h₂
      obtain rfl : fields = fields' := Except.ok.inj (hf₁.symm.trans (hfields.trans hf₂))
      have hcontains : ∀ needle, Predicate.bare ∘ a.contains needle =
          fun f => .like (a.relatedTable ++ "." ++ f) "" := fun _ => rfl
      have hb₁ := Predicate.anyOf?_bare (fields.map (a.contains (Text.lower (Text.trim raw₁))))
      have hb₂ := Predicate.anyOf?_bare (fields.map (a.contains (Text.lower (Text.trim raw₂))))
      rw [hp₁, List.map_map, hcontains] at hb₁
      rw [hp₂, List.map_map, hcontains, ← hb₁] at hb₂
      exact Option.some.inj hb₂.symm

theorem ownerQuery_bare (h : p₁.bare = p₂.bare) :
    (a.ownerQuery p₁).bare = (a.ownerQuery p₂).bare := by
  have htyped : (a.typed p₁).bare = (a.typed p₂).bare := by
    unfold typed
    split
    · simp only [Predicate.bare, h]
    · exact h
  simp only [ownerQuery, Fragment.push_bare, Predicate.fragment_bare_congr htyped]

end Association

namespace RelationalQuery
open Session

variable {q₁ q₂ : RelationalQuery} {c : Column} {raw raw₁ raw₂ : String}
  {m m₁ m₂ : Option TermMeaning} {h h' h₁ h₂ h₁' h₂' : List Call} {registry : Registry}

/-- Two queries over one schema that differ only in the values of their predicates. -/
structure Similar (q₁ q₂ : RelationalQuery) : Prop where
  schema : q₁.store.SameSchema q₂.store
  registry : q₁.registry = q₂.registry
  base : q₁.base = q₂.base
  relation : q₁.relation.bare = q₂.relation.bare
  stage : q₁.stage = q₂.stage

/-- What is read without looking for owners is read without a statement. -/
theorem no_statement_of_read {q : RelationalQuery}
    (hm : q.reader.read c.toColumnData raw h = (.ok m, h'))
    (hn : ∀ key ids, m ≠ some (.owners key ids)) :
    ∃ asked, h' = h ++ asked ∧ asked.filterMap Call.bare? = [] := by
  obtain ⟨asked, hh, hcolumns⟩ := TermReader.columns_of_read rfl hm hn
  exact ⟨asked, hh, Call.bare?_of_columns hcolumns⟩

/-- Outcomes of one shape come of the same calls and put conditions of the same text. -/
theorem read_bare (table : String) (hs : q₁.store.SameSchema q₂.store) (hb : q₁.base = q₂.base)
    (hm₁ : q₁.reader.read c.toColumnData raw₁ h₁ = (.ok m₁, h₁'))
    (hm₂ : q₂.reader.read c.toColumnData raw₂ h₂ = (.ok m₂, h₂'))
    (hm : SameOutcome c.toColumnData raw₁ raw₂ m₁ m₂) :
    (∃ new₁ new₂, h₁' = h₁ ++ new₁ ∧ h₂' = h₂ ++ new₂ ∧
      new₁.filterMap Call.bare? = new₂.filterMap Call.bare?) ∧
    m₁.map (fun m => (condition table c.toColumnData m).bare) =
      m₂.map (fun m => (condition table c.toColumnData m).bare) := by
  cases hm with
  | dropped =>
    obtain ⟨asked₁, rfl, hnone₁⟩ := no_statement_of_read hm₁ nofun
    obtain ⟨asked₂, rfl, hnone₂⟩ := no_statement_of_read hm₂ nofun
    exact ⟨⟨asked₁, asked₂, rfl, rfl, hnone₁.trans hnone₂.symm⟩, rfl⟩
  | value hshape =>
    obtain ⟨asked₁, rfl, hnone₁⟩ := no_statement_of_read hm₁ nofun
    obtain ⟨asked₂, rfl, hnone₂⟩ := no_statement_of_read hm₂ nofun
    exact ⟨⟨asked₁, asked₂, rfl, rfl, hnone₁.trans hnone₂.symm⟩,
      congrArg some (Predicate.ofTerm_bare hshape)⟩
  | owners hids hlisted =>
    obtain ⟨a₁, p₁, ha₁, hp₁, rfl, rfl⟩ := TermReader.ids_of_read rfl hm₁
    obtain ⟨a₂, p₂, ha₂, hp₂, rfl, rfl⟩ := TermReader.ids_of_read rfl hm₂
    -- one schema and one table, so that both terms speak of the same association
    have ha : some a₁ = some a₂ := by rw [← ha₁, ← ha₂, hs.association, hb]
    obtain rfl := Option.some.inj ha
    have hquery := Association.ownerQuery_bare (a := a₁)
      (Association.related_bare hs.columns hlisted hp₁ hp₂)
    have hasked : ∀ raw, (a₁.questions raw c.associationMode).filterMap Call.bare? = [] :=
      fun _ => Call.bare?_of_columns fun _ => a₁.columns_of_questions
    refine ⟨⟨_, _, List.append_assoc .., List.append_assoc .., ?_⟩, ?_⟩
    · simp only [List.filterMap_append, hasked, List.filterMap_cons, Call.bare?, hquery]
    · simp only [Option.map_some, condition, ownedBy, List.isEmpty_iff_length_eq_zero, hids]
      split <;> simp only [Predicate.bare, hids]

theorem predicate_of_read {q : RelationalQuery} (hplain : c.searchStrategy = none)
    (hm : q.reader.read c.toColumnData raw h = (.ok m, h')) :
    q.predicate c raw h = (.ok (m.map fun m =>
      (condition q.base.table c.toColumnData m).fragment q.store.capabilities), h') := by
  rw [predicate_eq hplain, bind_of_ok hm, pure_apply]

/-- The predicates of two terms of one outcome have the same text, and so have their lookups. -/
theorem predicate_agree (hs : q₁.store.SameSchema q₂.store) (hb : q₁.base = q₂.base)
    (hplain : c.searchStrategy = none)
    (hm₁ : q₁.reader.read c.toColumnData raw₁ h₁ = (.ok m₁, h₁'))
    (hm₂ : q₂.reader.read c.toColumnData raw₂ h₂ = (.ok m₂, h₂'))
    (hm : SameOutcome c.toColumnData raw₁ raw₂ m₁ m₂) :
    Agree (fun o₁ o₂ : Option Fragment => o₁.map (·.bare) = o₂.map (·.bare))
      (q₁.predicate c raw₁) (q₂.predicate c raw₂) h₁ h₂ := by
  obtain ⟨hnew, hbare⟩ := read_bare q₁.base.table hs hb hm₁ hm₂ hm
  unfold Agree
  rw [predicate_of_read hplain hm₁, predicate_of_read hplain hm₂]
  refine ⟨hnew, Or.inl ⟨_, _, rfl, rfl, ?_⟩⟩
  rw [← hs.capabilities, ← hb]
  cases hm with
  | dropped => rfl
  | value _ | owners _ _ =>
    exact congrArg some (Predicate.fragment_bare_congr (Option.some.inj hbare))

theorem gather_agree (hs : q₁.store.SameSchema q₂.store) (hb : q₁.base = q₂.base)
    (hplain : ∀ c ∈ registry.columns, c.searchStrategy = none) {terms₁ terms₂ : List SearchTerm}
    (hshape : SameShapes q₁.reader q₂.reader registry terms₁ terms₂ h₁ h₂) :
    Agree (fun added₁ added₂ : List (Column × Fragment) =>
        added₁.map (fun t => (t.1, t.2.bare)) = added₂.map (fun t => (t.1, t.2.bare)))
      (gather q₁.predicate (registry.resolveTerms terms₁))
      (gather q₂.predicate (registry.resolveTerms terms₂)) h₁ h₂ := by
  induction hshape with
  | nil => exact .pure rfl
  | unknown hc _ ih => simpa [Registry.resolveTerms, hc] using ih
  | @known name raw₁ raw₂ rest₁ rest₂ h₁ h₂ h₁' h₂' c m₁ m₂ hc hm₁ hm₂ hm _ ih =>
    have hp := hplain c (Registry.mem_of_lookup? hc)
    have hcons : ∀ raw rest, registry.resolveTerms ((name, raw) :: rest) =
        (c, raw) :: registry.resolveTerms rest := by
      simp [Registry.resolveTerms, hc]
    rw [hcons, hcons]
    refine .bind (predicate_agree hs hb hp hm₁ hm₂ hm) fun o₁ o₂ g₁ g₂ ho₁ ho₂ ho => ?_
    -- the rest is read on the histories that this term leaves behind
    obtain rfl : h₁' = g₁ := congrArg Prod.snd ((predicate_of_read hp hm₁).symm.trans ho₁)
    obtain rfl : h₂' = g₂ := congrArg Prod.snd ((predicate_of_read hp hm₂).symm.trans ho₂)
    cases o₁ with
    | none =>
      cases o₂ with
      | none => exact ih
      | some f => cases ho
    | some f₁ =>
      cases o₂ with
      | none => cases ho
      | some f₂ =>
        refine .bind ih fun added₁ added₂ _ _ _ _ hadded => .pure ?_
        simp only [List.map_cons, hadded, Option.some.inj ho]

theorem push_bare (r : Relation) (t : Column × Fragment) :
    (push r t).bare = push r.bare (t.1, t.2.bare) := by
  unfold push
  split <;> simp [Relation.bare, *]

theorem foldl_push_bare {r : Relation} {added : List (Column × Fragment)} :
    (added.foldl push r).bare = (added.map fun t => (t.1, t.2.bare)).foldl push r.bare := by
  induction added generalizing r with
  | nil => rfl
  | cons t added ih => rw [List.foldl_cons, ih, push_bare, List.map_cons, List.foldl_cons]

theorem search_agree (hq : q₁.Similar q₂)
    (hplain : ∀ c ∈ q₁.registry.columns, c.searchStrategy = none)
    {terms₁ terms₂ : List SearchTerm}
    (hshape : SameShapes q₁.reader q₂.reader q₁.registry terms₁ terms₂ h₁ h₂) :
    Agree Similar (q₁.search terms₁) (q₂.search terms₂) h₁ h₂ := by
  unfold search
  rw [← hq.stage, ← hq.registry]
  refine .bind (.ofExcept_self _) fun stage _ g₁ g₂ hg₁ hg₂ he => ?_
  subst he
  obtain rfl : h₁ = g₁ := congrArg Prod.snd hg₁
  obtain rfl : h₂ = g₂ := congrArg Prod.snd hg₂
  refine .bind (gather_agree hq.schema hq.base hplain hshape) fun added₁ added₂ _ _ _ _ hadded =>
    .pure ?_
  exact { hq with
    registry := rfl
    stage := rfl
    relation := by simp only [foldl_push_bare, hadded, hq.relation] }

theorem order_agree (hq : q₁.Similar q₂) (spec : Option OrderSpec) :
    Agree Similar (Session.ofExcept (q₁.order spec)) (Session.ofExcept (q₂.order spec)) h₁ h₂ := by
  have hterms : ∀ c d, q₂.orderTerms c d = q₁.orderTerms c d := by
    intro c d
    simp only [orderTerms, hq.schema.capabilities]
  have hkeys : q₂.relation.orderBy = q₁.relation.orderBy := (congrArg (·.orderBy) hq.relation).symm
  simp only [order, ofExcept_bind]
  rw [← hq.stage, ← hq.registry]
  refine .bind (.ofExcept_self _) fun stage _ _ _ _ _ he => ?_
  subst he
  refine .bind (.ofExcept_self _) fun target _ _ _ _ _ he => ?_
  subst he
  rcases target with _ | ⟨c, d⟩
  · exact .pure { hq with registry := rfl, stage := rfl }
  · simp only [ofExcept_bind, hterms, hkeys]
    refine .bind (.ofExcept_self _) fun terms _ _ _ _ _ he => ?_
    subst he
    refine .pure { hq with registry := rfl, stage := rfl, relation := ?_ }
    exact congrArg
      (fun r : Relation => { r with orderBy := terms ++ q₁.relation.orderBy }) hq.relation

theorem paginate_agree (hq : q₁.Similar q₂) (w : PageWindow) :
    Agree Similar (Session.ofExcept (q₁.paginate w)) (Session.ofExcept (q₂.paginate w)) h₁ h₂ := by
  simp only [paginate, ofExcept_bind]
  rw [← hq.stage]
  refine .bind (.ofExcept_self _) fun stage _ _ _ _ _ he => ?_
  subst he
  refine .pure { hq with stage := rfl, relation := ?_ }
  exact congrArg
    (fun r : Relation => { r with limit := some w.perPage.toNat, offset := some w.offset })
    hq.relation

theorem statements_sql (h : q₁.relation.bare = q₂.relation.bare) :
    q₁.relation.statements.map (·.sql) = q₂.relation.statements.map (·.sql) := by
  have hselect : q₁.relation.select.bare = q₂.relation.select.bare := by
    rw [Relation.select_bare, h, Relation.select_bare]
  have hcount : q₁.relation.count.bare = q₂.relation.count.bare := by
    rw [Relation.count_bare, h, Relation.count_bare]
  have hsizes : q₁.relation.groupSizes.bare = q₂.relation.groupSizes.bare := by
    rw [Relation.groupSizes_bare, h, Relation.groupSizes_bare]
  simp only [Relation.statements, List.map_cons, Fragment.sql_eq hselect, Fragment.sql_eq hcount,
    Fragment.sql_eq hsizes]

/-- Over one schema, with one order and one page, terms of the same shape are compiled to statements
of the same text, and so are their lookups of related rows. -/
theorem compile_noninterference {store₁ store₂ : RecordStore} {base : Relation}
    {terms₁ terms₂ : List SearchTerm} (hs : store₁.SameSchema store₂)
    (hplain : ∀ c ∈ registry.columns, c.searchStrategy = none)
    (hshape : SameShapes (start store₁ registry base).reader (start store₂ registry base).reader
      registry terms₁ terms₂ h₁ h₂)
    (spec : Option OrderSpec) (w : PageWindow) :
    Agree (fun q₁ q₂ => q₁.relation.statements.map (·.sql) = q₂.relation.statements.map (·.sql))
      (TableQuery.writeAll (start store₁ registry base) [.search terms₁, .order spec, .paginate w])
      (TableQuery.writeAll (start store₂ registry base) [.search terms₂, .order spec, .paginate w])
      h₁ h₂ := by
  have hq : (start store₁ registry base).Similar (start store₂ registry base) :=
    ⟨hs, rfl, rfl, rfl, rfl⟩
  refine .bind (search_agree hq hplain hshape) fun q₁ q₂ _ _ _ _ hq => ?_
  refine .bind (order_agree hq spec) fun q₁ q₂ _ _ _ _ hq => ?_
  refine .bind (paginate_agree hq w) fun q₁ q₂ _ _ _ _ hq => ?_
  exact .pure (statements_sql hq.relation)

theorem compile_noninterference_hostile :
    Blog.store.SameSchema Blog.store ∧
    (∀ c ∈ Blog.registry.columns, c.searchStrategy = none) ∧
    let plain : List SearchTerm := [("title", "three plain words"), ("comments", "who")]
    let hostile : List SearchTerm := [("title", "x' OR '1'='1"), ("comments", "?') --")]
    let q := start Blog.store Blog.registry Blog.posts
    SameShapes q.reader q.reader Blog.registry plain hostile [] [] ∧
    Agree (fun q₁ q₂ => q₁.relation.statements.map (·.sql) = q₂.relation.statements.map (·.sql))
      (TableQuery.writeAll q [.search plain, .order none, .paginate .first])
      (TableQuery.writeAll q [.search hostile, .order none, .paginate .first]) [] [] ∧
    (q.search hostile []).1.toOption.map (·.relation.count.sql) = some
      ("SELECT COUNT(*) FROM posts WHERE ((posts.site_id = ?) AND (((posts.title ILIKE ? ESCAPE " ++
        "'!') AND (posts.title ILIKE ? ESCAPE '!')) AND (posts.title ILIKE ? ESCAPE '!'))) AND " ++
        "(posts.id IN (?, ?))") := by
  have hs : Blog.store.SameSchema Blog.store := ⟨rfl, rfl, fun _ _ _ => rfl⟩
  have hplain := Blog.registry_plain
  have hshape : SameShapes (start Blog.store Blog.registry Blog.posts).reader
      (start Blog.store Blog.registry Blog.posts).reader Blog.registry
      [("title", "three plain words"), ("comments", "who")]
      [("title", "x' OR '1'='1"), ("comments", "?') --")] [] [] := by
    let words (s t u : String) : TermMeaning :=
      .value (.text (.allOf [.containing s, .containing t, .containing u]))
    have hplain : (start Blog.store Blog.registry Blog.posts).reader.read
        Blog.title.toColumnData "three plain words" [] =
        (.ok (some (words "three" "plain" "words")), []) := rfl
    have hhostile : (start Blog.store Blog.registry Blog.posts).reader.read
        Blog.title.toColumnData "x' OR '1'='1" [] =
        (.ok (some (words "x'" "or" "'1'='1")), []) := rfl
    have hwho : ∃ calls, (start Blog.store Blog.registry Blog.posts).reader.read
        Blog.discussion.toColumnData "who" [] =
        (.ok (some (.owners "id" [1, 3])), calls) := ⟨_, rfl⟩
    have hquoted : ∃ calls, (start Blog.store Blog.registry Blog.posts).reader.read
        Blog.discussion.toColumnData "?') --" [] =
        (.ok (some (.owners "id" [1, 3])), calls) := ⟨_, rfl⟩
    obtain ⟨_, hwho⟩ := hwho
    obtain ⟨_, hquoted⟩ := hquoted
    exact .known rfl hplain hhostile (.value (.patterns rfl))
      (.known rfl hwho hquoted (.owners rfl nofun) .nil)
  exact ⟨hs, hplain, hshape, compile_noninterference hs hplain hshape none .first,
    by decide +kernel⟩

end RelationalQuery
end TableView
