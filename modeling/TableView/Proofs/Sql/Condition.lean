import TableView.Proofs.Pattern.Wildcards

/-! SQL conditions: their syntax, their text and their three-valued meaning in a row. -/
namespace TableView
open Text (CaseFolding)

def Date.compare (a b : Date) : Ordering :=
  (Ord.compare a.year b.year).then
    ((Ord.compare a.month b.month).then (Ord.compare a.day b.day))

def Instant.compare (a b : Instant) : Ordering :=
  (a.date.compare b.date).then ((Ord.compare a.hour b.hour).then
    ((Ord.compare a.minute b.minute).then
      ((Ord.compare a.second b.second).then (Ord.compare a.nanos b.nanos))))

/-- The value of each field; a field that is missing is null. -/
abbrev Row := String → Sql.Param

namespace Sql

inductive Truth | yes | no | unknown
deriving DecidableEq

namespace Truth

def ofBool (b : Bool) : Truth := if b then yes else no

def and : Truth → Truth → Truth
  | no, _ | _, no => no
  | yes, yes => yes
  | _, _ => unknown

def or : Truth → Truth → Truth
  | yes, _ | _, yes => yes
  | no, no => no
  | _, _ => unknown

variable {a b c : Truth}

@[simp] theorem ofBool_eq_yes {b : Bool} : ofBool b = yes ↔ b = true := by
  cases b <;> simp [ofBool]

@[simp] theorem and_eq_yes : a.and b = yes ↔ a = yes ∧ b = yes := by
  cases a <;> cases b <;> simp [and]

@[simp] theorem or_eq_yes : a.or b = yes ↔ a = yes ∨ b = yes := by
  cases a <;> cases b <;> simp [or]

@[simp] theorem yes_and : yes.and a = a := by cases a <;> rfl

@[simp] theorem and_yes : a.and yes = a := by cases a <;> rfl

@[simp] theorem or_no : a.or no = a := by cases a <;> rfl

theorem and_assoc : (a.and b).and c = a.and (b.and c) := by
  cases a <;> cases b <;> cases c <;> rfl

theorem or_assoc : (a.or b).or c = a.or (b.or c) := by
  cases a <;> cases b <;> cases c <;> rfl

def all (ts : List Truth) : Truth := ts.foldr and yes

def any (ts : List Truth) : Truth := ts.foldr or no

@[simp] theorem all_cons (t : Truth) (ts : List Truth) : all (t :: ts) = t.and (all ts) := rfl

@[simp] theorem any_cons (t : Truth) (ts : List Truth) : any (t :: ts) = t.or (any ts) := rfl

theorem all_append (ts us : List Truth) : all (ts ++ us) = (all ts).and (all us) := by
  induction ts with
  | nil => exact yes_and.symm
  | cons t ts ih => rw [List.cons_append, all_cons, all_cons, ih, and_assoc]

theorem all_eq_no {ts : List Truth} (h : no ∈ ts) : all ts = no := by
  induction ts with
  | nil => cases h
  | cons t ts ih =>
    rw [all_cons]
    rcases List.mem_cons.mp h with rfl | h
    · rfl
    · rw [ih h]
      cases t <;> rfl

end Truth

/-- The order of two values; there is none with null or between values of different kinds. -/
def Param.compare? : Param → Param → Option Ordering
  | .text a, .text b => some (compare a b)
  | .integer a, .integer b => some (compare a b)
  | .boolean a, .boolean b => some (compare a b)
  | .date a, .date b => some (a.compare b)
  | .timestamp a, .timestamp b => some (a.compare b)
  | _, _ => none

/-- Applies a folding to text and leaves other values as they are. -/
def Param.folded (F : CaseFolding) : Param → Param
  | .text s => .text (F.text s)
  | p => p

def Param.isNull : Param → Bool
  | .null => true
  | _ => false

/-- Whether the value is a text that satisfies the tokens. -/
def Param.accepts : Param → List Token → Bool
  | .text s, ts => Token.accept ts s.toList
  | _, _ => false

def Comparison.accepts : Comparison → Ordering → Bool
  | eq => Ordering.isEq
  | gt => Ordering.isGT
  | gte => Ordering.isGE
  | lt => Ordering.isLT
  | lte => Ordering.isLE

def Comparison.truth (op : Comparison) (a b : Param) : Truth :=
  match a.compare? b with
  | some o => .ofBool (op.accepts o)
  | none => .unknown

inductive Expr
  | field (name : String)
  /-- A marker with the value bound to it. -/
  | bound (p : Param)
  | emptyText
  | lower (e : Expr)
  | yearOf (name : String)

namespace Expr

def fragment (d : Dialect) : Expr → Fragment
  | field name => { sql := name }
  | bound p => .ofParam "?" p
  | emptyText => { sql := "''" }
  | lower e =>
    let f := fragment d e
    { f with sql := "LOWER(" ++ f.sql ++ ")" }
  | yearOf name => { sql := d.yearOf name }

def value (F : CaseFolding) (r : Row) : Expr → Param
  | field name => r name
  | bound p => p
  | emptyText => .text ""
  | lower e => (value F r e).folded F
  | yearOf name =>
    match r name with
    | .date d => .integer d.year
    | .timestamp t => .integer t.date.year
    | _ => .null

end Expr

inductive Condition
  /-- No text and no restriction. -/
  | nothing
  | never
  | compare (a : Expr) (op : Comparison) (b : Expr)
  /-- `LIKE` with `!` as escape, or `ILIKE` when case does not count. -/
  | like (ignoreCase : Bool) (a : Expr) (pattern : Param)
  | isNull (a : Expr)
  | isIn (a : Expr) (ids : List Int)
  | parens (a : Condition)
  /-- Without parentheses. -/
  | both (a b : Condition)
  /-- Without parentheses. -/
  | either (a b : Condition)
  | and (a b : Condition)
  | or (a b : Condition)

namespace Condition

/-- The texts of two parts with something between. -/
def joined (a : Fragment) (between : String) (b : Fragment) : Fragment where
  sql := a.sql ++ between ++ b.sql
  params := a.params ++ b.params

def fragment (d : Dialect) : Condition → Fragment
  | nothing => {}
  | never => { sql := "1 = 0" }
  | compare a op b => joined (a.fragment d) (" " ++ op.sql ++ " ") (b.fragment d)
  | like ignoreCase a pattern =>
    (joined (a.fragment d) (if ignoreCase then " ILIKE " else " LIKE ")
      (.ofParam "?" pattern)).pushText " ESCAPE '!'"
  | isNull a => (a.fragment d).pushText " IS NULL"
  | isIn a ids =>
    joined (a.fragment d) " IN ("
      { sql := ", ".intercalate (ids.map fun _ => "?") ++ ")", params := ids.map .integer }
  | parens a =>
    let f := fragment d a
    { f with sql := "(" ++ f.sql ++ ")" }
  | both a b => joined (fragment d a) " AND " (fragment d b)
  | either a b => joined (fragment d a) " OR " (fragment d b)
  | and a b => (fragment d a).and (fragment d b)
  | or a b => (fragment d a).or (fragment d b)

/-- Whether a whole text has the form of a pattern; null has no form. -/
def likeTruth (F : CaseFolding) (ignoreCase : Bool) (value pattern : Param) : Truth :=
  let fold := fun p : Param => if ignoreCase then p.folded F else p
  match fold value, fold pattern with
  | .text s, .text p => .ofBool (Token.accept (Wildcards.like.read p.toList) s.toList)
  | _, _ => .unknown

def truth (F : CaseFolding) (r : Row) : Condition → Truth
  | nothing => .yes
  | never => .no
  | compare a op b => op.truth (a.value F r) (b.value F r)
  | like ignoreCase a pattern => likeTruth F ignoreCase (a.value F r) pattern
  | isNull a => .ofBool (a.value F r).isNull
  | isIn a ids =>
    ids.foldr (fun n rest => (Comparison.eq.truth (a.value F r) (.integer n)).or rest) .no
  | parens a => truth F r a
  | both a b | and a b => (truth F r a).and (truth F r b)
  | either a b | or a b => (truth F r a).or (truth F r b)

end Condition

namespace Predicate

def operand : Operand → Expr
  | .field name => .field name
  | .yearOf name => .yearOf name

/-- The condition that a predicate is written as. -/
def condition (caps : Capabilities) : Predicate → Condition
  | nothing => .nothing
  | never => .never
  | compare left op right => .compare (operand left) op (.bound right)
  | sameText field value => .compare (.lower (.field field)) .eq (.lower (.bound (.text value)))
  | like field pattern =>
    if caps.ilike then .like true (.field field) (.text pattern)
    else .like false (.lower (.field field)) (.text pattern)
  | blank field =>
    .parens (.either (.compare (.field field) .eq .emptyText) (.isNull (.field field)))
  | isIn field ids => .isIn (.field field) ids
  | both a b => .both (condition caps a) (condition caps b)
  | and a b => .and (condition caps a) (condition caps b)
  | or a b => .or (condition caps a) (condition caps b)

end Predicate
end Sql
end TableView
