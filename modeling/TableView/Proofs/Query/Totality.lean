import TableView.Proofs.Association.Resolution
import TableView.Proofs.Query.Writing
import TableView.Proofs.Term.Overflow

/-! What search terms can do to a search: only a price whose cents cannot be held ends it, and what
cannot be read drops out. -/
namespace TableView

variable {registry : Registry} {c : Column} {raw table : String} {source : AssociationSource}

namespace Session
variable {α β : Type} {b p : Prop} {x : Session α} {f : α → Session β}

/-- Whatever was called before, the session yields a result unless `b` holds, and then it stops at a
price out of range. -/
def Settles (b : Prop) (x : Session α) : Prop := ∀ h,
  (¬ b → ∃ a h', x h = (.ok a, h')) ∧ (b → ∃ h', x h = (.error .overflow, h'))

namespace Settles

theorem pure (a : α) : Settles False (pure a : Session α) := fun h =>
  ⟨fun _ => ⟨a, h, rfl⟩, False.elim⟩

theorem congr (hx : Settles b x) (hb : b ↔ p) : Settles p x := fun h =>
  ⟨fun hn => (hx h).1 (mt hb.mp hn), fun hp => (hx h).2 (hb.mpr hp)⟩

theorem bind (hx : Settles b x) (hf : ∀ a, Settles p (f a)) : Settles (b ∨ p) (x >>= f) := by
  intro h
  by_cases hb : b
  · obtain ⟨h', hx⟩ := (hx h).2 hb
    exact ⟨fun hn => absurd (Or.inl hb) hn, fun _ => ⟨h', bind_of_error hx⟩⟩
  · obtain ⟨a, h', hx⟩ := (hx h).1 hb
    rw [bind_of_ok hx]
    exact ⟨fun hn => (hf a h').1 fun hp => hn (Or.inr hp),
      fun hor => (hf a h').2 (hor.resolve_left hb)⟩

theorem map (hx : Settles b x) (g : α → β) : Settles b (x >>= fun a => Pure.pure (g a)) :=
  (hx.bind fun a => .pure (g a)).congr (by simp)

theorem gather {read : Column → String → Session (Option α)} {bad : Column × String → Prop}
    {terms : List (Column × String)} (hr : ∀ t ∈ terms, Settles (bad t) (read t.1 t.2)) :
    Settles (∃ t ∈ terms, bad t) (gather read terms) := by
  induction terms with
  | nil => exact (pure []).congr (by simp)
  | cons t rest ih =>
    have ih := ih fun u hu => hr u (List.mem_cons_of_mem _ hu)
    obtain ⟨c, raw⟩ := t
    have hfirst := hr (c, raw) List.mem_cons_self
    refine (hfirst.bind (p := ∃ t ∈ rest, bad t) fun o => ?_).congr (by simp)
    cases o with
    | none => exact ih
    | some a => exact ih.map _

end Settles
end Session

open Session

/-- A source that knows the associations of all relationship columns and whose lookups succeed. -/
structure AssociationSource.Answers (s : AssociationSource) (registry : Registry)
    (table : String) : Prop where
  association : ∀ c ∈ registry.columns, c.kind.isRelationship →
    ∃ a, s.association table c.associationName = some a
  columns : ∀ h t, ∃ columns, s.columns h t = .ok columns
  pluckIds : ∀ h f, ∃ ids, s.pluckIds h f = .ok ids

/-- Some term on a price column spells an amount whose cents cannot be held. -/
def Registry.Overflows (registry : Registry) (terms : List SearchTerm) : Prop :=
  ∃ name raw c, (name, raw) ∈ terms ∧ registry.lookup? name = some c ∧ c.kind = .price ∧
    Term.Overflows raw

/-- A term on no column, or one that its column cannot read and that is no price out of range. -/
def Registry.Unreadable (registry : Registry) (deobfuscate : String → String)
    (t : SearchTerm) : Prop :=
  ∀ c, registry.lookup? t.1 = some c → c.kind.isRelationship = false ∧
    ∃ e, Term.parse c.toColumnData deobfuscate t.2 = .error e ∧ e ≠ .overflow

namespace Association

theorem related?_ok (hs : ∀ h t, ∃ columns, source.columns h t = .ok columns) (a : Association)
    (mode : AssociationMode) (raw : String) (h : List Call) :
    ∃ o, (a.related? source mode raw h).1 = .ok o := by
  cases mode with
  | idList =>
    obtain ⟨-, hids⟩ | ⟨-, hids⟩ := related?_ids source a raw h <;> exact ⟨_, by rw [hids]⟩
  | textSearch field =>
    by_cases hneedle : Text.lower (Text.trim raw) = ""
    · exact ⟨none, by rw [related?_blank hneedle]⟩
    · rw [related?_text hneedle]
      cases field with
      | some field => exact ⟨_, rfl⟩
      | none =>
        obtain ⟨columns, hcolumns⟩ := hs h a.relatedTable
        rw [searchedFields_none, hcolumns]
        exact ⟨_, rfl⟩

theorem resolve_settles (hs : source.Answers registry table) (hc : c ∈ registry.columns)
    (hk : c.kind.isRelationship) : Settles False (resolve source table c.toColumnData raw) := by
  refine fun h => ⟨fun _ => ?_, False.elim⟩
  obtain ⟨a, ha⟩ := hs.association c hc hk
  obtain ⟨o, ho⟩ := related?_ok hs.columns a c.associationMode raw h
  rw [resolve_apply, ha]
  simp only [ho]
  cases o with
  | none => exact ⟨_, _, rfl⟩
  | some p =>
    obtain ⟨ids, hids⟩ :=
      hs.pluckIds (h ++ a.questions raw c.associationMode) (a.ownerQuery p)
    simp only [hids]
    exact ⟨_, _, rfl⟩

end Association

namespace TermReader
variable {r : TermReader}

theorem readValue_settles (c : ColumnData) :
    Settles (c.kind = .price ∧ Term.Overflows raw) (Session.ofExcept (r.readValue c raw)) := by
  intro h
  rw [← Term.parse_eq_overflow c r.deobfuscate]
  unfold readValue
  split
  · exact ⟨fun _ => ⟨_, h, rfl⟩, fun he => by simp_all⟩
  · exact ⟨fun hn => absurd ‹_› hn, fun _ => ⟨h, rfl⟩⟩
  · exact ⟨fun _ => ⟨_, h, rfl⟩, fun he => by simp_all⟩

theorem read_settles (hc : c ∈ registry.columns)
    (hr : ∀ source table, r.associations = some (source, table) → source.Answers registry table) :
    Settles (c.kind = .price ∧ Term.Overflows raw) (r.read c.toColumnData raw) := by
  unfold read
  split
  · rename_i hk
    have hprice : ¬ (c.kind = .price ∧ Term.Overflows raw) := by
      rintro ⟨hp, -⟩
      simp [hp, ColumnKind.isRelationship] at hk
    apply Settles.congr _ (iff_of_false False.elim hprice)
    unfold readRelationship
    split
    · exact .pure none
    · rename_i source table ha
      apply ((Association.resolve_settles (hr source table ha) hc hk).bind fun o => ?_).congr
        (or_self_iff)
      cases o <;> exact .pure _
  · exact readValue_settles c.toColumnData

end TermReader

theorem overflows_iff {terms : List SearchTerm} :
    (∃ t ∈ registry.resolveTerms terms, t.1.kind = .price ∧ Term.Overflows t.2) ↔
      registry.Overflows terms := by
  simp only [Registry.resolveTerms, List.mem_filterMap, Option.map_eq_some_iff, Registry.Overflows]
  constructor
  · rintro ⟨_, ⟨⟨name, raw⟩, hm, c, hc, rfl⟩, hk, ho⟩
    exact ⟨name, raw, c, hm, hc, hk, ho⟩
  · rintro ⟨name, raw, c, hm, hc, hk, ho⟩
    exact ⟨(c, raw), ⟨(name, raw), hm, c, hc, rfl⟩, hk, ho⟩

/-- Reading the resolved terms one after the other stops at the first price out of range. -/
theorem gather_settles {α : Type} {read : Column → String → Session (Option α)}
    {terms : List SearchTerm}
    (hr : ∀ c ∈ registry.columns, ∀ raw,
      Settles (c.kind = .price ∧ Term.Overflows raw) (read c raw)) :
    Settles (registry.Overflows terms) (gather read (registry.resolveTerms terms)) :=
  (Settles.gather fun t ht => hr t.1 (Registry.mem_of_resolveTerms ht) t.2).congr overflows_iff

theorem gather_dropped {α : Type} {read : Column → String → Session (Option α)}
    {before after : List SearchTerm} {t : SearchTerm}
    (ht : ∀ c, registry.lookup? t.1 = some c → read c t.2 = pure none) :
    gather read (registry.resolveTerms (before ++ t :: after)) =
      gather read (registry.resolveTerms (before ++ after)) := by
  induction before with
  | nil =>
    obtain ⟨name, raw⟩ := t
    cases hc : registry.lookup? name with
    | none => simp [Registry.resolveTerms, hc]
    | some c =>
      have hread : read c raw = pure none := ht c hc
      simp only [Registry.resolveTerms, List.nil_append, List.filterMap_cons, hc, Option.map_some,
        gather, hread]
      rfl
  | cons u before ih =>
    obtain ⟨name, raw⟩ := u
    cases hc : registry.lookup? name with
    | none => simpa [Registry.resolveTerms, hc] using ih
    | some c =>
      simp only [Registry.resolveTerms, List.cons_append, List.filterMap_cons, hc,
        Option.map_some, gather] at ih ⊢
      rw [ih]

theorem TermReader.read_dropped {r : TermReader} {name : String}
    (h : registry.Unreadable r.deobfuscate (name, raw)) (hc : registry.lookup? name = some c) :
    r.read c.toColumnData raw = pure none := by
  obtain ⟨hk, e, he, hne⟩ := h c hc
  unfold read readValue
  rw [if_neg (by simp [hk]), he]
  cases e <;> first | rfl | exact absurd rfl hne

namespace RelationalQuery

theorem search_settles {q : RelationalQuery} {terms : List SearchTerm} (hstage : q.stage = .idle)
    (hplain : ∀ c ∈ q.registry.columns, c.searchStrategy = none)
    (hs : q.store.toAssociationSource.Answers q.registry q.base.table) :
    Settles (q.registry.Overflows terms) (q.search terms) := by
  have hread : ∀ c ∈ q.registry.columns, ∀ raw,
      Settles (c.kind = .price ∧ Term.Overflows raw) (q.predicate c raw) := by
    intro c hc raw
    rw [predicate_eq (hplain c hc)]
    exact (TermReader.read_settles hc (by rintro _ _ ⟨⟩; exact hs)).map _
  unfold search
  rw [hstage]
  exact (gather_settles hread).map _

theorem search_dropped {q : RelationalQuery} {before after : List SearchTerm} {t : SearchTerm}
    (hplain : ∀ c ∈ q.registry.columns, c.searchStrategy = none)
    (ht : q.registry.Unreadable q.store.deobfuscate t) :
    q.search (before ++ t :: after) = q.search (before ++ after) := by
  have hread : ∀ c, q.registry.lookup? t.1 = some c → q.predicate c t.2 = pure none := by
    intro c hc
    rw [predicate_eq (hplain c (Registry.mem_of_lookup? hc)),
      TermReader.read_dropped (r := q.reader) ht hc]
    rfl
  unfold search
  rw [gather_dropped hread]

end RelationalQuery

namespace IndexQuery

theorem search_settles {q : IndexQuery} {terms : List SearchTerm} (hstage : q.stage = .idle)
    (hplain : ∀ c ∈ q.registry.columns, c.searchStrategy = none)
    (hr : ∀ source table, q.reader.associations = some (source, table) →
      source.Answers q.registry table) :
    Settles (q.registry.Overflows terms) (q.search terms) := by
  have hread : ∀ c ∈ q.registry.columns, ∀ raw,
      Settles (c.kind = .price ∧ Term.Overflows raw) (q.clause c raw) := by
    intro c hc raw
    rw [clause_eq (hplain c hc)]
    exact (TermReader.read_settles hc hr).map _
  unfold search
  rw [hstage]
  exact (gather_settles hread).map _

theorem search_dropped {q : IndexQuery} {before after : List SearchTerm} {t : SearchTerm}
    (hplain : ∀ c ∈ q.registry.columns, c.searchStrategy = none)
    (ht : q.registry.Unreadable q.reader.deobfuscate t) :
    q.search (before ++ t :: after) = q.search (before ++ after) := by
  have hread : ∀ c, q.registry.lookup? t.1 = some c → q.clause c t.2 = pure none := by
    intro c hc
    rw [clause_eq (hplain c (Registry.mem_of_lookup? hc)), TermReader.read_dropped ht hc]
    rfl
  unfold search
  rw [gather_dropped hread]

end IndexQuery

/-- A fresh query of either kind takes all search terms but a price whose cents cannot be held, and
what cannot be read makes no difference to it. -/
theorem search_total (hplain : ∀ c ∈ registry.columns, c.searchStrategy = none) :
    (∀ (store : RecordStore) (base : Sql.Relation),
      let q := RelationalQuery.start store registry base
      (store.toAssociationSource.Answers registry base.table →
        ∀ terms, Settles (registry.Overflows terms) (q.search terms)) ∧
      ∀ before t after, registry.Unreadable store.deobfuscate t →
        q.search (before ++ t :: after) = q.search (before ++ after)) ∧
    ∀ (index : SearchIndex) (settings : Settings) (reader : TermReader),
      let q := { IndexQuery.start index registry settings with reader }
      ((∀ source table, reader.associations = some (source, table) →
          source.Answers registry table) →
        ∀ terms, Settles (registry.Overflows terms) (q.search terms)) ∧
      ∀ before t after, registry.Unreadable reader.deobfuscate t →
        q.search (before ++ t :: after) = q.search (before ++ after) := by
  constructor
  · intro store base q
    exact ⟨fun hs terms => RelationalQuery.search_settles (q := q) rfl hplain hs,
      fun before t after ht => RelationalQuery.search_dropped (q := q) hplain ht⟩
  · intro index settings reader q
    exact ⟨fun hr terms => IndexQuery.search_settles (q := q) rfl hplain hr,
      fun before t after ht => IndexQuery.search_dropped (q := q) hplain ht⟩

theorem search_total_fee :
    (∀ c ∈ Blog.registry.columns, c.searchStrategy = none) ∧
    Blog.store.toAssociationSource.Answers Blog.registry "posts" ∧
    let q := RelationalQuery.start Blog.store Blog.registry Blog.posts
    let within : List SearchTerm := [("fee", "792281625142643375935439503.35"), ("comments", "")]
    let beyond : List SearchTerm := [("fee", "792281625142643375935439503.4"), ("comments", "")]
    (¬ Blog.registry.Overflows within ∧ ∃ q' calls, q.search within [] = (.ok q', calls)) ∧
    (Blog.registry.Overflows beyond ∧ ∃ calls, q.search beyond [] = (.error .overflow, calls)) ∧
    q.search [("fee", "79228162514264337593543950336")] = q.search [] ∧
    let q := { IndexQuery.start Blog.index Blog.registry {} with reader := q.reader }
    (∃ q' calls, q.search within [] = (.ok q', calls)) ∧
    ∃ calls, q.search beyond [] = (.error .overflow, calls) := by
  have hplain := Blog.registry_plain
  have hs : Blog.store.toAssociationSource.Answers Blog.registry "posts" := by
    refine ⟨fun c hc hk => ?_, fun _ _ => ⟨_, rfl⟩, fun _ _ => ⟨_, rfl⟩⟩
    simp only [Blog.registry, List.mem_cons, List.not_mem_nil, or_false] at hc
    rcases hc with rfl | rfl | rfl
    · cases hk
    · cases hk
    · exact ⟨Blog.comments, by decide⟩
  have hwithin : ¬ Blog.registry.Overflows
      [("fee", "792281625142643375935439503.35"), ("comments", "")] := by
    rintro ⟨name, raw, c, hm, hc, hk, d, hd, he⟩
    simp only [List.mem_cons, List.not_mem_nil, or_false, Prod.mk.injEq] at hm
    rcases hm with ⟨rfl, rfl⟩ | ⟨rfl, rfl⟩
    · have hfull : Term.decimal "792281625142643375935439503.35" =
          .ok ⟨79228162514264337593543950335, 2, false⟩ := rfl
      obtain rfl := Except.ok.inj (hfull.symm.trans hd)
      simp [Decimal.Bounded.Exceeds] at he
    · obtain rfl : Blog.discussion = c := Option.some.inj hc
      cases hk
  have hbeyond : Blog.registry.Overflows
      [("fee", "792281625142643375935439503.4"), ("comments", "")] :=
    ⟨"fee", "792281625142643375935439503.4", Blog.fee, by simp, rfl, rfl,
      ⟨7922816251426433759354395034, 1, false⟩, rfl, Or.inr ⟨rfl, by decide⟩⟩
  have hlong : Blog.registry.Unreadable Blog.store.deobfuscate
      ("fee", "79228162514264337593543950336") := by
    intro c hc
    obtain rfl : Blog.fee = c := Option.some.inj hc
    exact ⟨rfl, .unparseable "decimal" "79228162514264337593543950336", rfl, nofun⟩
  obtain ⟨hsettles, hdropped⟩ := (search_total hplain).1 Blog.store Blog.posts
  have hindex := ((search_total hplain).2 Blog.index {}
    (RelationalQuery.start Blog.store Blog.registry Blog.posts).reader).1
    (by rintro _ _ ⟨⟩; exact hs)
  exact ⟨hplain, hs, ⟨hwithin, (hsettles hs _ []).1 hwithin⟩,
    ⟨hbeyond, (hsettles hs _ []).2 hbeyond⟩, hdropped [] _ [] hlong,
    (hindex _ []).1 hwithin, (hindex _ []).2 hbeyond⟩

end TableView
