import TableView.Query.Meaning

/-! Reasoning about sessions: what they call and what they yield. -/
namespace TableView

section Except
variable {ε α β : Type} {x : Except ε α} {b : β} {e : ε}

theorem ok_of_bind {f : α → Except ε β} (h : x >>= f = .ok b) : ∃ a, x = .ok a ∧ f a = .ok b := by
  cases x with
  | error e => cases h
  | ok a => exact ⟨a, rfl, h⟩

theorem error_of_bind {f : α → Except ε β} (h : x >>= f = .error e) :
    x = .error e ∨ ∃ a, x = .ok a ∧ f a = .error e := by
  cases x with
  | error e' =>
    cases h
    exact Or.inl rfl
  | ok a => exact Or.inr ⟨a, rfl, h⟩

theorem ok_of_map {f : α → β} (h : x.map f = .ok b) : ∃ a, x = .ok a ∧ f a = b := by
  cases x with
  | error e => cases h
  | ok a => exact ⟨a, rfl, Except.ok.inj h⟩

end Except

namespace Session

variable {α β : Type} {P : Call → Prop} {Q : α → Prop} {R : β → Prop} {x : Session α}
  {f : α → Session β} {h h' h'' : List Call} {a : α} {b : β} {e : Error}

theorem bind_apply (x : Session α) (f : α → Session β) (h : List Call) :
    (x >>= f) h = match x h with
      | (.ok a, h') => f a h'
      | (.error e, h') => (.error e, h') := by
  show (match x h with | (r, h') => (ExceptT.bindCont f r : StateM (List Call) _) h') = _
  rcases x h with ⟨_ | _, _⟩ <;> rfl

@[simp] theorem pure_apply (a : α) (h : List Call) : (pure a : Session α) h = (.ok a, h) := rfl

@[simp] theorem throw_apply (e : Error) (h : List Call) :
    (throw e : Session α) h = (.error e, h) := rfl

@[simp] theorem ofExcept_apply (x : Except Error α) (h : List Call) : ofExcept x h = (x, h) := rfl

@[simp] theorem columns_apply (s : AssociationSource) (table : String) (h : List Call) :
    columns s table h = (s.columns h table, h ++ [.columns table]) := rfl

theorem ofExcept_bind (x : Except Error α) (g : α → Except Error β) :
    ofExcept (x >>= g) = ofExcept x >>= fun a => ofExcept (g a) := by
  funext h
  cases x <;> rfl

theorem bind_of_ok (hx : x h = (.ok a, h')) : (x >>= f) h = f a h' := by
  rw [bind_apply, hx]

theorem bind_of_error (hx : x h = (.error e, h')) : (x >>= f) h = (.error e, h') := by
  rw [bind_apply, hx]

theorem bind_eq_ok : (x >>= f) h = (.ok b, h'') ↔
    ∃ a h', x h = (.ok a, h') ∧ f a h' = (.ok b, h'') := by
  constructor
  · intro hb
    rcases hx : x h with ⟨e | a, h'⟩
    · rw [bind_of_error hx] at hb
      cases hb
    · exact ⟨a, h', rfl, by rwa [bind_of_ok hx] at hb⟩
  · rintro ⟨a, h', hx, hf⟩
    rwa [bind_of_ok hx]

theorem map_apply (x : Session α) (g : α → β) (h : List Call) :
    (x >>= fun a => pure (g a)) h = ((x h).1.map g, (x h).2) := by
  rw [bind_apply]
  rcases x h with ⟨_ | _, _⟩ <;> rfl

theorem map_eq_error {g : α → β} :
    (x >>= fun a => pure (g a)) h = (.error e, h') ↔ x h = (.error e, h') := by
  rw [bind_apply]
  rcases x h with ⟨_ | _, _⟩ <;> constructor <;> intro he <;> cases he <;> rfl

/-- A session that checks something, does something and puts both together. -/
theorem checked_eq_ok {γ : Type} {v : Except Error α} {y : Session β} {g : α → β → γ} {c : γ} :
    (ofExcept v >>= fun a => y >>= fun b => pure (g a b)) h = (.ok c, h') ↔
      ∃ a b, v = .ok a ∧ y h = (.ok b, h') ∧ c = g a b := by
  constructor
  · intro hc
    obtain ⟨a, h₁, ha, hc⟩ := bind_eq_ok.mp hc
    obtain rfl : h = h₁ := congrArg Prod.snd ha
    obtain ⟨b, h₂, hb, hc⟩ := (bind_eq_ok (x := y)).mp hc
    cases hc
    exact ⟨a, b, congrArg Prod.fst ha, hb, rfl⟩
  · rintro ⟨a, b, rfl, hb, rfl⟩
    exact (bind_of_ok rfl).trans (bind_of_ok hb)

/-- Terms are read in their order. -/
theorem gather_append {read : Column → String → Session (Option α)}
    {terms rest : List (Column × String)} : gather read (terms ++ rest) =
    gather read terms >>= fun first => gather read rest >>= fun later => pure (first ++ later) := by
  induction terms with
  | nil => simp [gather]
  | cons u terms ih =>
    obtain ⟨d, other⟩ := u
    simp only [List.cons_append, gather, bind_assoc]
    congr 1
    funext o
    cases o <;> simp [ih]

section Steps
variable {Q C : Type} {perform : Q → C → Session Q} {q q' r : Q} {c : C} {calls after : List C}

theorem foldlM_snoc (calls : List C) (c : C) :
    (calls ++ [c]).foldlM perform q = calls.foldlM perform q >>= fun r => perform r c := by
  simp only [List.foldlM_append, List.foldlM_cons, List.foldlM_nil, bind_pure]

theorem foldlM_snoc_eq_ok : (calls ++ [c]).foldlM perform q h = (.ok r, h') ↔
    ∃ q' g, calls.foldlM perform q h = (.ok q', g) ∧ perform q' c g = (.ok r, h') := by
  rw [foldlM_snoc]
  exact bind_eq_ok

/-- Nothing is done after the first step that fails. -/
theorem foldlM_of_error (hc : calls.foldlM perform q h = (.ok q', h'))
    (he : perform q' c h' = (.error e, h'')) :
    (calls ++ c :: after).foldlM perform q h = (.error e, h'') := by
  rw [List.foldlM_append, bind_of_ok hc, List.foldlM_cons, bind_of_error he]

end Steps

/-- Whatever was called before, all new calls satisfy `P` and a result satisfies `Q`. -/
def Keeps (P : Call → Prop) (Q : α → Prop) (x : Session α) : Prop :=
  ∀ h, (∃ new, (x h).2 = h ++ new ∧ ∀ c ∈ new, P c) ∧ ∀ a, (x h).1 = .ok a → Q a

namespace Keeps

theorem pure (hq : Q a) : Keeps P Q (pure a) := by
  refine fun _ => ⟨⟨[], by simp, by simp⟩, fun b hb => ?_⟩
  cases hb
  exact hq

theorem ofExcept {x : Except Error α} (hq : ∀ a, x = .ok a → Q a) : Keeps P Q (ofExcept x) :=
  fun _ => ⟨⟨[], by simp, by simp⟩, hq⟩

theorem throw (e : Error) : Keeps P Q (throw e : Session α) := fun _ =>
  ⟨⟨[], by simp, by simp⟩, fun a ha => by simp at ha⟩

theorem ask {c : Call} {answer : List Call → Except Error α} (hc : P c)
    (hq : ∀ h a, answer h = .ok a → Q a) : Keeps P Q (ask c answer) := fun h =>
  ⟨⟨[c], rfl, by simpa using hc⟩, hq h⟩

theorem bind (hx : Keeps P Q x) (hf : ∀ a, Q a → Keeps P R (f a)) : Keeps P R (x >>= f) := by
  intro h
  obtain ⟨⟨new, hnew, hp⟩, hq⟩ := hx h
  rcases hr : x h with ⟨e | a, h'⟩
  · rw [bind_of_error hr]
    rw [hr] at hnew
    exact ⟨⟨new, hnew, hp⟩, fun b hb => by simp at hb⟩
  · rw [bind_of_ok hr]
    rw [hr] at hnew hq
    obtain ⟨⟨more, hmore, hpm⟩, hr⟩ := hf a (hq a rfl) h'
    refine ⟨⟨new ++ more, ?_, ?_⟩, hr⟩
    · rw [hmore, show h' = h ++ new from hnew, List.append_assoc]
    · intro c hc
      exact (List.mem_append.mp hc).elim (hp c) (hpm c)

theorem mono {Q' : α → Prop} (hx : Keeps P Q x) (hq : ∀ a, Q a → Q' a) : Keeps P Q' x :=
  fun h => ⟨(hx h).1, fun a ha => hq a ((hx h).2 a ha)⟩

theorem weaken {P' : Call → Prop} (hx : Keeps P Q x) (hp : ∀ c, P c → P' c) : Keeps P' Q x := by
  intro h
  obtain ⟨⟨new, hnew, hall⟩, hq⟩ := hx h
  exact ⟨⟨new, hnew, fun c hc => hp c (hall c hc)⟩, hq⟩

theorem gather {read : Column → String → Session (Option α)} {S : Column → α → Prop}
    {terms : List (Column × String)}
    (hr : ∀ t ∈ terms, Keeps P (fun o => ∀ a, o = some a → S t.1 a) (read t.1 t.2)) :
    Keeps P (fun added => ∀ t ∈ added, S t.1 t.2) (gather read terms) := by
  induction terms with
  | nil => exact pure (by simp)
  | cons t rest ih =>
    obtain ⟨c, raw⟩ := t
    have ih := ih fun t ht => hr t (List.mem_cons_of_mem _ ht)
    apply bind (hr (c, raw) List.mem_cons_self)
    intro o ho
    cases o with
    | none => exact ih
    | some a =>
      apply bind ih
      intro added hadded
      apply pure
      intro t ht
      rcases List.mem_cons.mp ht with rfl | ht
      · exact ho a rfl
      · exact hadded t ht

/-- Gathering makes no calls but those of reading. -/
theorem gather_calls {read : Column → String → Session (Option α)}
    (hr : ∀ c raw, Keeps P (fun _ => True) (read c raw)) (terms : List (Column × String)) :
    Keeps P (fun _ => True) (Session.gather read terms) := by
  refine (gather (S := fun _ _ => True) fun t _ => ?_).mono fun _ _ => trivial
  exact (hr t.1 t.2).mono fun _ _ _ _ => trivial

theorem foldlM {step : β → α → Session β} (hs : ∀ b a, R b → Keeps P R (step b a)) (l : List α)
    (hb : R b) : Keeps P R (l.foldlM step b) := by
  induction l generalizing b with
  | nil => exact pure hb
  | cons a l ih =>
    rw [List.foldlM_cons]
    exact bind (hs b a hb) fun b hb => ih hb

end Keeps
end Session
end TableView
