import TableView.Proofs.Sql.Pruning

/-! The condition of a clause as it is put together, whatever stands in the texts of its
predicates. -/
namespace TableView.Sql

/-- Predicates that are joined two by two. -/
inductive Conjunction
  | nothing
  | one (f : Fragment)
  | both (a b : Conjunction)

namespace Conjunction
variable {c : Conjunction} {f : Fragment} {fs : List Fragment} {meaning : Fragment → Truth}

/-- Two conditions stand in parentheses, with `AND` between. -/
def text : Conjunction → String
  | nothing => ""
  | one f => f.sql
  | both a b => "(" ++ a.text ++ ") AND (" ++ b.text ++ ")"

def predicates : Conjunction → List Fragment
  | nothing => []
  | one f => [f]
  | both a b => a.predicates ++ b.predicates

/-- What the condition says of a row of which each predicate, by itself, says what it means. -/
def truth (meaning : Fragment → Truth) : Conjunction → Truth
  | nothing => .yes
  | one f => meaning f
  | both a b => (a.truth meaning).and (b.truth meaning)

/-- Joins predicates one after the other to what stands before them. -/
def join (c : Conjunction) (fs : List Fragment) : Conjunction :=
  fs.foldl (fun c f => both c (one f)) c

/-- The condition of a clause: each predicate that has a text is joined to those before it. -/
def ofClause (fs : List Fragment) : Conjunction :=
  match Relation.written fs with
  | [] => nothing
  | f :: rest => (one f).join rest

theorem predicates_join : (c.join fs).predicates = c.predicates ++ fs := by
  induction fs generalizing c with
  | nil => exact (List.append_nil _).symm
  | cons f fs ih =>
    have hjoin : c.join (f :: fs) = (both c (one f)).join fs := rfl
    rw [hjoin, ih, predicates, predicates, List.append_assoc, List.singleton_append]

theorem text_join (hf : f.sql ≠ "") (hfs : ∀ g ∈ fs, g.sql ≠ "") (hc : c.text = f.sql) :
    (c.join fs).text = (fs.foldl Fragment.and f).sql := by
  induction fs generalizing c f with
  | nil => exact hc
  | cons g fs ih =>
    have hg : g.sql ≠ "" := hfs g List.mem_cons_self
    have hword : ") AND (" = ") " ++ "AND" ++ " (" := by decide
    have hboth : (both c (one g)).text = (f.and g).sql := by
      rw [text, text, hc, Fragment.and, Fragment.connect_sql hf hg, hword]
      simp only [String.append_assoc]
    exact ih (by simp [Fragment.and, Fragment.connect_sql hf hg])
      (fun k hk => hfs k (List.mem_cons_of_mem _ hk)) hboth

@[simp] theorem predicates_ofClause (fs : List Fragment) :
    (ofClause fs).predicates = Relation.written fs := by
  unfold ofClause
  cases Relation.written fs with
  | nil => rfl
  | cons f rest => exact predicates_join

/-- A clause is written as the condition that it is put together to. -/
theorem text_ofClause (fs : List Fragment) :
    (ofClause fs).text = Relation.conditionText fs := by
  have hsql : ∀ f ∈ Relation.written fs, f.sql ≠ "" := by
    intro f hf
    simpa [Relation.written, Fragment.isEmpty] using (List.mem_filter.mp hf).2
  rw [← Relation.conditionText_written]
  unfold ofClause
  cases hfs : Relation.written fs with
  | nil => rfl
  | cons f rest =>
    rw [hfs] at hsql
    exact text_join (hsql f List.mem_cons_self) (fun g hg => hsql g (List.mem_cons_of_mem _ hg)) rfl

/-- A condition says what all its predicates say. -/
theorem truth_eq_all (c : Conjunction) : c.truth meaning = .all (c.predicates.map meaning) := by
  induction c with
  | nothing => rfl
  | one f => exact Truth.and_yes.symm
  | both a b iha ihb => rw [truth, iha, ihb, predicates, List.map_append, Truth.all_append]

/-- With the condition that no row satisfies a clause says no, wherever this stands and whatever the
others are. -/
theorem truth_ofClause_never (hm : Fragment.never ∈ fs) (hnever : meaning .never = .no) :
    (ofClause fs).truth meaning = .no := by
  have hwritten : Fragment.never ∈ Relation.written fs := List.mem_filter.mpr ⟨hm, rfl⟩
  rw [truth_eq_all, predicates_ofClause]
  exact Truth.all_eq_no (List.mem_map.mpr ⟨_, hwritten, hnever⟩)

/-- Where quotes and parentheses pair up in the predicates, the text of a clause is read as the
condition that it is put together to. -/
theorem text_conditionText_eq_truth (v : Reader) (hfs : ∀ f ∈ fs, f.Balanced) :
    v.text (Relation.conditionText fs) = (ofClause fs).truth (v.text ·.sql) := by
  have hwritten : ∀ f ∈ Relation.written fs, f.Balanced := fun f hf =>
    hfs f (List.mem_filter.mp hf).1
  rw [← Relation.conditionText_written, Relation.text_conditionText hwritten, truth_eq_all,
    predicates_ofClause]

end Conjunction
end TableView.Sql
