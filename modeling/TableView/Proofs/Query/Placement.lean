import TableView.Proofs.Fields
import TableView.Proofs.Query.Writing

/-! Where a search puts what its terms add: each predicate into one clause of the relation, each
clause into one group of the body, and nothing anywhere else. -/
namespace TableView
open Index (Body Clause Placed)

/-- The predicates of a clause of a relation. -/
def Sql.Relation.conditions (r : Sql.Relation) : TargetClause → List Sql.Fragment
  | .filter => r.filters
  | .having => r.having

namespace Index

/-- The groups of clauses of a body. -/
inductive Group
  | query
  | filter
  | nested (path : String)
deriving DecidableEq

def Body.clauses (b : Body) : Group → List Clause
  | .query => b.query
  | .filter => b.filter
  | .nested path => (b.nested.get? path).getD []

def Body.pushTo (b : Body) : Group → Clause → Body
  | .query => b.pushQuery
  | .filter => b.pushFilter
  | .nested path => b.pushNested path

/-- A body without any condition. -/
def Body.unfiltered (b : Body) : Body := { b with query := [], filter := [], nested := [] }

theorem Body.unfiltered_pushTo (b : Body) (group : Group) (c : Clause) :
    (b.pushTo group c).unfiltered = b.unfiltered := by
  cases group <;> rfl

theorem Body.clauses_pushTo (b : Body) (group other : Group) (c : Clause) :
    (b.pushTo group c).clauses other = b.clauses other ++ if group = other then [c] else [] := by
  cases group <;> cases other <;> simp [pushTo, pushQuery, pushFilter, pushNested, clauses]
  case nested.nested path path' =>
    by_cases hp : path = path' <;> simp [Fields.get?_insert, hp]

end Index

namespace RelationalQuery
open Sql (Fragment Relation)
variable {r : Relation} {added : List (Column × Fragment)}

/-- What was added to a clause, in the order in which it was added. -/
def addedTo (target : TargetClause) (added : List (Column × Fragment)) : List Fragment :=
  (added.filter fun t => t.1.search.targetClause = target).map Prod.snd

theorem conditions_push (r : Relation) (t : Column × Fragment) (target : TargetClause) :
    (push r t).conditions target = r.conditions target ++ addedTo target [t] := by
  unfold push
  cases ht : t.1.search.targetClause <;> cases target <;>
    simp [Relation.conditions, addedTo, ht]

theorem push_eq (r : Relation) (t : Column × Fragment) : push r t = { r with
    filters := (push r t).conditions .filter, having := (push r t).conditions .having } := by
  unfold push
  split <;> rfl

theorem foldl_push_eq (r : Relation) (added : List (Column × Fragment)) :
    added.foldl push r = { r with
      filters := r.filters ++ addedTo .filter added
      having := r.having ++ addedTo .having added } := by
  induction added generalizing r with
  | nil => simp [addedTo]
  | cons t added ih =>
    rw [List.foldl_cons, ih, push_eq, conditions_push, conditions_push]
    simp only [Relation.conditions, addedTo, List.append_assoc, ← List.map_append,
      ← List.filter_append, List.singleton_append]

theorem conditions_foldl_push (target : TargetClause) :
    (added.foldl push r).conditions target = r.conditions target ++ addedTo target added := by
  rw [foldl_push_eq]
  cases target <;> rfl

end RelationalQuery

namespace IndexQuery
open Index (Group)
variable {b : Body} {added : List (Column × Placed)}

/-- The group of a clause on a column. -/
def groupOf (c : Column) (p : Placed) : Group :=
  match c.kind, p with
  | .nested path, _ => .nested path
  | _, .query _ => .query
  | _, .filter _ => .filter

/-- What was added to a group, in the order in which it was added. -/
def addedTo (group : Group) (added : List (Column × Placed)) : List Clause :=
  (added.filter fun t => groupOf t.1 t.2 = group).map (·.2.clause)

theorem push_eq_pushTo (b : Body) (t : Column × Placed) :
    push b t = b.pushTo (groupOf t.1 t.2) t.2.clause := by
  obtain ⟨c, p⟩ := t
  simp only [push, groupOf]
  cases c.kind <;> cases p <;> rfl

theorem clauses_push (b : Body) (t : Column × Placed) (group : Group) :
    (push b t).clauses group = b.clauses group ++ addedTo group [t] := by
  rw [push_eq_pushTo, Body.clauses_pushTo]
  by_cases hg : groupOf t.1 t.2 = group <;> simp [addedTo, hg]

theorem clauses_foldl_push (group : Group) :
    (added.foldl push b).clauses group = b.clauses group ++ addedTo group added := by
  induction added generalizing b with
  | nil => simp [addedTo]
  | cons t added ih =>
    rw [List.foldl_cons, ih, clauses_push, List.append_assoc, addedTo, addedTo, addedTo,
      ← List.map_append, ← List.filter_append, List.singleton_append]

theorem unfiltered_foldl_push : (added.foldl push b).unfiltered = b.unfiltered := by
  induction added generalizing b with
  | nil => rfl
  | cons t added ih => rw [List.foldl_cons, ih, push_eq_pushTo, Body.unfiltered_pushTo]

end IndexQuery
end TableView
