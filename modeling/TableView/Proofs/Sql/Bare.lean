import TableView.Sql.Ordering
import TableView.Sql.Predicate
import TableView.Sql.Relation
import TableView.Store.Session

/-! SQL without its bound values: taking them out before or after a statement is put together makes
no difference. -/
namespace TableView.Sql

/-- The same text with no values. -/
def Fragment.bare (f : Fragment) : Fragment := { f with params := [] }

/-- The same relation with no values in its predicates. -/
def Relation.bare (r : Relation) : Relation :=
  { r with filters := r.filters.map (·.bare), having := r.having.map (·.bare) }

/-- The same condition on other values, all of them alike. -/
def Predicate.bare : Predicate → Predicate
  | nothing => nothing
  | never => never
  | compare left op _ => compare left op .null
  | sameText field _ => sameText field ""
  | like field _ => like field ""
  | blank field => blank field
  | isIn field ids => isIn field (List.replicate ids.length 0)
  | both a b => both a.bare b.bare
  | and a b => and a.bare b.bare
  | or a b => or a.bare b.bare

namespace Fragment
variable {a b f : Fragment} {fs : List Fragment} {word : String}

@[simp] theorem bare_sql : f.bare.sql = f.sql := rfl

theorem sql_eq (h : a.bare = b.bare) : a.sql = b.sql := by
  rw [← bare_sql (f := a), h, bare_sql]

theorem connect_bare : (connect word a b).bare = connect word a.bare b.bare := rfl

theorem push_bare : (a.push b).bare = a.bare.push b.bare := rfl

theorem foldl_and_bare :
    (fs.foldl Fragment.and f).bare = (fs.map (·.bare)).foldl Fragment.and f.bare := by
  induction fs generalizing f with
  | nil => rfl
  | cons g fs ih =>
    rw [List.foldl_cons, ih, List.map_cons, List.foldl_cons]
    rfl

theorem andAll?_bare : (andAll? fs).map (·.bare) = andAll? (fs.map (·.bare)) := by
  cases fs with
  | nil => rfl
  | cons f fs => exact congrArg some foldl_and_bare

end Fragment

theorem Predicate.fragment_bare (caps : Capabilities) (p : Predicate) :
    (p.bare.fragment caps).bare = (p.fragment caps).bare := by
  induction p with
  | nothing | never | compare _ _ _ | sameText _ _ | like _ _ | blank _ => rfl
  | isIn field ids => simp [bare, fragment, inList, Fragment.bare, List.map_const']
  | both a b iha ihb =>
    simp only [bare, fragment, Fragment.bare, Fragment.sql_eq iha, Fragment.sql_eq ihb]
  | and a b iha ihb =>
    simp only [bare, fragment, Fragment.and, Fragment.connect_bare, iha, ihb]
  | or a b iha ihb =>
    simp only [bare, fragment, Fragment.or, Fragment.connect_bare, iha, ihb]

theorem Predicate.fragment_bare_congr {caps : Capabilities} {p q : Predicate}
    (h : p.bare = q.bare) : (p.fragment caps).bare = (q.fragment caps).bare := by
  rw [← fragment_bare, h, fragment_bare]

namespace Relation
variable {f : Fragment} {fs : List Fragment} {r r₁ r₂ : Relation} {word : String}

theorem pushWhere_bare :
    (pushWhere f word fs).bare = pushWhere f.bare word (fs.map (·.bare)) := by
  unfold pushWhere
  rw [← Fragment.andAll?_bare]
  cases Fragment.andAll? fs <;> rfl

theorem pushList_bare (texts : List String) :
    (pushList f word texts).bare = pushList f.bare word texts := by
  unfold pushList
  split <;> rfl

theorem pushNumber_bare (n : Option Nat) :
    (pushNumber f word n).bare = pushNumber f.bare word n := by
  cases n <;> rfl

theorem body_bare (r : Relation) : r.body.bare = r.bare.body := by
  simp only [body, pushWhere_bare, pushList_bare]
  rfl

theorem select_bare (r : Relation) : r.select.bare = r.bare.select := by
  simp only [select, pushNumber_bare, pushList_bare, Fragment.push_bare, body_bare]
  rfl

theorem groupSizes_bare (r : Relation) : r.groupSizes.bare = r.bare.groupSizes := by
  simp only [groupSizes, Fragment.push_bare, body_bare]
  rfl

theorem count_bare (r : Relation) : r.count.bare = r.bare.count := by
  have hinner : r.unpaged.select.bare = r.bare.unpaged.select := select_bare r.unpaged
  unfold count
  show _ = if r.isGrouped || r.projection.isSome then _ else _
  split
  · rw [← hinner]
    rfl
  · exact groupSizes_bare r

end Relation
end TableView.Sql
