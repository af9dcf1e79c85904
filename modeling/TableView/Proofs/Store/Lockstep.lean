import TableView.Proofs.Association.Resolution

/-! Two sessions that make the same calls, each on a history of its own. -/
namespace TableView

namespace Session
variable {α β α' β' : Type} {R : α → β → Prop} {S : α' → β' → Prop} {x : Session α} {y : Session β}
  {f : α → Session α'} {g : β → Session β'} {h₁ h₂ : List Call} {a : α} {b : β}

/-- Run on their own histories, two sessions make the same calls and end in related results or in
one and the same error. -/
def InStep (R : α → β → Prop) (x : Session α) (y : Session β) (h₁ h₂ : List Call) : Prop :=
  ∃ new, (x h₁).2 = h₁ ++ new ∧ (y h₂).2 = h₂ ++ new ∧
    ((∃ a b, (x h₁).1 = .ok a ∧ (y h₂).1 = .ok b ∧ R a b) ∨
      ∃ e, (x h₁).1 = .error e ∧ (y h₂).1 = .error e)

namespace InStep

theorem pure (hr : R a b) : InStep R (pure a) (pure b) h₁ h₂ :=
  ⟨[], by simp, by simp, Or.inl ⟨a, b, rfl, rfl, hr⟩⟩

theorem ofExcept_self (x : Except Error α) : InStep Eq (ofExcept x) (ofExcept x) h₁ h₂ := by
  refine ⟨[], by simp, by simp, ?_⟩
  cases x with
  | ok a => exact Or.inl ⟨a, a, rfl, rfl, rfl⟩
  | error e => exact Or.inr ⟨e, rfl, rfl⟩

theorem throw_self (e : Error) : InStep R (throw e) (throw e) h₁ h₂ :=
  ⟨[], by simp, by simp, Or.inr ⟨e, rfl, rfl⟩⟩

theorem ask {c : Call} {answer₁ answer₂ : List Call → Except Error α}
    (ha : answer₁ h₁ = answer₂ h₂) : InStep Eq (ask c answer₁) (ask c answer₂) h₁ h₂ := by
  refine ⟨[c], rfl, rfl, ?_⟩
  show (∃ a b, answer₁ h₁ = .ok a ∧ answer₂ h₂ = .ok b ∧ a = b) ∨
    ∃ e, answer₁ h₁ = .error e ∧ answer₂ h₂ = .error e
  rw [ha]
  cases answer₂ h₂ with
  | ok a => exact Or.inl ⟨a, a, rfl, rfl, rfl⟩
  | error e => exact Or.inr ⟨e, rfl, rfl⟩

/-- What follows runs on the histories that the first calls leave behind. -/
theorem bind (hx : InStep R x y h₁ h₂)
    (hf : ∀ new a b, x h₁ = (.ok a, h₁ ++ new) → y h₂ = (.ok b, h₂ ++ new) → R a b →
      InStep S (f a) (g b) (h₁ ++ new) (h₂ ++ new)) : InStep S (x >>= f) (y >>= g) h₁ h₂ := by
  obtain ⟨new, hn₁, hn₂, hr⟩ := hx
  rcases hx₁ : x h₁ with ⟨rx, h₁'⟩
  rcases hy₂ : y h₂ with ⟨ry, h₂'⟩
  rw [hx₁] at hn₁ hr
  rw [hy₂] at hn₂ hr
  obtain rfl : h₁' = h₁ ++ new := hn₁
  obtain rfl : h₂' = h₂ ++ new := hn₂
  unfold InStep
  rcases hr with ⟨a, b, rfl, rfl, hr⟩ | ⟨e, rfl, rfl⟩
  · obtain ⟨more, hm₁, hm₂, hs⟩ := hf new a b hx₁ hy₂ hr
    rw [bind_of_ok hx₁, bind_of_ok hy₂]
    exact ⟨new ++ more, by rw [hm₁, List.append_assoc], by rw [hm₂, List.append_assoc], hs⟩
  · rw [bind_of_error hx₁, bind_of_error hy₂]
    exact ⟨new, rfl, rfl, Or.inr ⟨e, rfl, rfl⟩⟩

theorem mono {R' : α → β → Prop} (hx : InStep R x y h₁ h₂) (hr : ∀ a b, R a b → R' a b) :
    InStep R' x y h₁ h₂ := by
  obtain ⟨new, hn₁, hn₂, ⟨a, b, ha, hb, hab⟩ | he⟩ := hx
  · exact ⟨new, hn₁, hn₂, Or.inl ⟨a, b, ha, hb, hr a b hab⟩⟩
  · exact ⟨new, hn₁, hn₂, Or.inr he⟩

theorem option {x y : Session (Option α)} (hxy : InStep Eq x y h₁ h₂) :
    InStep (Option.Rel Eq) x y h₁ h₂ := by
  refine hxy.mono fun o _ ho => ?_
  subst ho
  cases o with
  | none => exact .none
  | some a => exact .some rfl

/-- When the first comes to a result, so does the second, and by the same calls. -/
theorem of_ok {h₁' : List Call} (hxy : InStep R x y h₁ h₂) (hx : x h₁ = (.ok a, h₁')) :
    ∃ b new, h₁' = h₁ ++ new ∧ y h₂ = (.ok b, h₂ ++ new) ∧ R a b := by
  obtain ⟨new, hn₁, hn₂, ⟨a', b, ha, hb, hr⟩ | ⟨e, he, -⟩⟩ := hxy
  · rw [hx] at hn₁ ha
    cases ha
    exact ⟨b, new, hn₁, Prod.ext hb hn₂, hr⟩
  · rw [hx] at he
    cases he

end InStep

/-- One after the other, the same terms are kept on both sides, and the others drop out on both. -/
inductive KeepSame (R : Column → String → α → β → Prop)
    (read₁ : Column → String → Session (Option α)) (read₂ : Column → String → Session (Option β)) :
    List (Column × String) → List Call → List Call → List (Column × α) → List (Column × β) → Prop
  | nil {h₁ h₂ : List Call} : KeepSame R read₁ read₂ [] h₁ h₂ [] []
  | drop {c : Column} {raw : String} {rest : List (Column × String)} {h₁ h₂ h₁' h₂' : List Call}
    {as : List (Column × α)} {bs : List (Column × β)}
    (ha : read₁ c raw h₁ = (.ok none, h₁')) (hb : read₂ c raw h₂ = (.ok none, h₂'))
    (hrest : KeepSame R read₁ read₂ rest h₁' h₂' as bs) :
    KeepSame R read₁ read₂ ((c, raw) :: rest) h₁ h₂ as bs
  | keep {c : Column} {raw : String} {rest : List (Column × String)} {h₁ h₂ h₁' h₂' : List Call}
    {a : α} {b : β} {as : List (Column × α)} {bs : List (Column × β)}
    (ha : read₁ c raw h₁ = (.ok (some a), h₁')) (hb : read₂ c raw h₂ = (.ok (some b), h₂'))
    (hr : R c raw a b) (hrest : KeepSame R read₁ read₂ rest h₁' h₂' as bs) :
    KeepSame R read₁ read₂ ((c, raw) :: rest) h₁ h₂ ((c, a) :: as) ((c, b) :: bs)

theorem KeepSame.eq {read₁ read₂ : Column → String → Session (Option α)}
    {terms : List (Column × String)} {as bs : List (Column × α)}
    (hk : KeepSame (fun _ _ => Eq) read₁ read₂ terms h₁ h₂ as bs) : as = bs := by
  induction hk with
  | nil => rfl
  | drop _ _ _ ih => exact ih
  | keep _ _ hr _ ih => rw [hr, ih]

/-- Terms that are read in step, each at any later point, are gathered in step. -/
theorem InStep.gather {R : Column → String → α → β → Prop}
    {read₁ : Column → String → Session (Option α)} {read₂ : Column → String → Session (Option β)}
    {terms : List (Column × String)}
    (hread : ∀ t ∈ terms, ∀ new, InStep (Option.Rel (R t.1 t.2)) (read₁ t.1 t.2) (read₂ t.1 t.2)
      (h₁ ++ new) (h₂ ++ new)) :
    InStep (KeepSame R read₁ read₂ terms h₁ h₂) (gather read₁ terms) (gather read₂ terms)
      h₁ h₂ := by
  induction terms generalizing h₁ h₂ with
  | nil => exact .pure .nil
  | cons t rest ih =>
    obtain ⟨c, raw⟩ := t
    have hfirst := hread (c, raw) List.mem_cons_self []
    rw [List.append_nil, List.append_nil] at hfirst
    refine hfirst.bind fun new o₁ o₂ ho₁ ho₂ ho => ?_
    have hrest : ∀ t ∈ rest, ∀ more, InStep (Option.Rel (R t.1 t.2)) (read₁ t.1 t.2)
        (read₂ t.1 t.2) (h₁ ++ new ++ more) (h₂ ++ new ++ more) := by
      intro t ht more
      rw [List.append_assoc, List.append_assoc]
      exact hread t (List.mem_cons_of_mem _ ht) (new ++ more)
    cases ho with
    | none => exact (ih hrest).mono fun as bs hk => .drop ho₁ ho₂ hk
    | some hr =>
      exact (ih hrest).bind fun _ as bs _ _ hk => .pure (.keep ho₁ ho₂ hr hk)

end Session

/-- Sources that know the same associations and answer alike from two points on, after the same
calls. -/
structure AssociationSource.Alike (s₁ s₂ : AssociationSource) (h₁ h₂ : List Call) : Prop where
  association : s₁.association = s₂.association
  columns : ∀ new table, s₁.columns (h₁ ++ new) table = s₂.columns (h₂ ++ new) table
  pluckIds : ∀ new f, s₁.pluckIds (h₁ ++ new) f = s₂.pluckIds (h₂ ++ new) f

/-- Readers that unscramble alike and look relationships of one table up in sources that answer
alike. -/
structure TermReader.Alike (r₁ r₂ : TermReader) (h₁ h₂ : List Call) : Prop where
  deobfuscate : r₁.deobfuscate = r₂.deobfuscate
  associations : ∃ s₁ s₂ table, r₁.associations = some (s₁, table) ∧
    r₂.associations = some (s₂, table) ∧ s₁.Alike s₂ h₁ h₂

variable {s₁ s₂ : AssociationSource} {r₁ r₂ : TermReader} {h₁ h₂ : List Call}

theorem AssociationSource.Alike.later (hs : s₁.Alike s₂ h₁ h₂) (new : List Call) :
    s₁.Alike s₂ (h₁ ++ new) (h₂ ++ new) where
  association := hs.association
  columns more table := by simpa only [List.append_assoc] using hs.columns (new ++ more) table
  pluckIds more f := by simpa only [List.append_assoc] using hs.pluckIds (new ++ more) f

theorem TermReader.Alike.later (hr : r₁.Alike r₂ h₁ h₂) (new : List Call) :
    r₁.Alike r₂ (h₁ ++ new) (h₂ ++ new) := by
  obtain ⟨hd, s₁, s₂, table, ha₁, ha₂, hs⟩ := hr
  exact ⟨hd, s₁, s₂, table, ha₁, ha₂, hs.later new⟩

open Session

namespace Association

theorem searchedFields_inStep (hs : s₁.Alike s₂ h₁ h₂) (a : Association) (field : Option String) :
    InStep Eq (searchedFields s₁ a field) (searchedFields s₂ a field) h₁ h₂ := by
  cases field with
  | some f => exact .pure rfl
  | none =>
    have hcolumns := hs.columns [] a.relatedTable
    rw [List.append_nil, List.append_nil] at hcolumns
    exact .bind (.ask hcolumns) fun _ _ _ _ _ he => .pure (by rw [he])

theorem related?_inStep (hs : s₁.Alike s₂ h₁ h₂) (a : Association) (mode : AssociationMode)
    (raw : String) : InStep Eq (a.related? s₁ mode raw) (a.related? s₂ mode raw) h₁ h₂ := by
  cases mode with
  | idList =>
    simp only [related?]
    split <;> exact .pure rfl
  | textSearch field =>
    simp only [related?]
    split
    · exact .pure rfl
    · exact .bind (searchedFields_inStep hs a field) fun _ _ _ _ _ he => .pure (by rw [he])

theorem resolve_inStep (hs : s₁.Alike s₂ h₁ h₂) (table : String) (c : ColumnData) (raw : String) :
    InStep Eq (resolve s₁ table c raw) (resolve s₂ table c raw) h₁ h₂ := by
  unfold resolve
  rw [hs.association]
  split
  · exact .throw_self _
  · rename_i a _
    refine .bind (related?_inStep hs a c.associationMode raw) fun new o _ _ _ ho => ?_
    subst ho
    cases o with
    | none => exact .pure rfl
    | some p =>
      refine .bind (.ask (hs.pluckIds new _)) fun _ ids _ _ _ hids => ?_
      exact .pure (by rw [hids])

end Association

/-- Readers that are alike come to the same meaning of a term. -/
theorem TermReader.read_inStep (hr : r₁.Alike r₂ h₁ h₂) (c : ColumnData) (raw : String) :
    InStep Eq (r₁.read c raw) (r₂.read c raw) h₁ h₂ := by
  obtain ⟨hd, s₁, s₂, table, ha₁, ha₂, hs⟩ := hr
  unfold read
  split
  · simp only [readRelationship, ha₁, ha₂]
    refine .bind (Association.resolve_inStep hs table c raw) fun _ o _ _ _ ho => ?_
    subst ho
    cases o <;> exact .pure rfl
  · simp only [readValue, hd]
    exact .ofExcept_self _

end TableView
