import TableView.Proofs.Sql.Condition
import TableView.Proofs.Sql.Statements

/-! Reading the text of conditions: parentheses, `AND` and `OR` count, all else is taken as it
is. -/
namespace TableView.Sql

/-- Quotes and parentheses that pair up; quoted parentheses are no parentheses. -/
inductive Pairs : List Char → Prop
  | nil : Pairs []
  | plain {c : Char} {cs : List Char} (hquote : c ≠ '\'') (hopen : c ≠ '(') (hclose : c ≠ ')')
      (rest : Pairs cs) : Pairs (c :: cs)
  | literal {quoted cs : List Char} (hquoted : ∀ c ∈ quoted, c ≠ '\'') (rest : Pairs cs) :
      Pairs ('\'' :: (quoted ++ '\'' :: cs))
  | parens {inner cs : List Char} (hinner : Pairs inner) (rest : Pairs cs) :
      Pairs ('(' :: (inner ++ ')' :: cs))

def Balanced (s : String) : Prop := Pairs s.toList

def isPlain (c : Char) : Bool := c ≠ '\'' ∧ c ≠ '(' ∧ c ≠ ')'

/-- Characters without quotes, parentheses and blanks, at least one. -/
def IsWord (cs : List Char) : Prop := cs ≠ [] ∧ ∀ c ∈ cs, isPlain c = true ∧ c ≠ ' '

instance (cs : List Char) : Decidable (IsWord cs) :=
  haveI := List.decidableBAll (fun c => isPlain c = true ∧ c ≠ ' ') cs
  inferInstanceAs (Decidable (_ ∧ _))

/-- The words of a condition, which blanks part, and what stands in parentheses among them. -/
inductive Node
  | word (text : List Char)
  | group (inner : List Node)

/-- How far a scan has come: in a literal or not, the letters of a word and the nodes so far, and
the nodes before each open parenthesis, the last ones first. -/
structure Scan where
  quoted : Bool := false
  word : List Char := []
  nodes : List Node := []
  outer : List (List Node) := []

namespace Scan

/-- The nodes with the word that has come to its end. -/
def closed (s : Scan) : List Node :=
  if s.word = [] then s.nodes else .word s.word.reverse :: s.nodes

def step (s : Scan) (c : Char) : Option Scan :=
  if c = '\'' then some { s with quoted := !s.quoted, word := c :: s.word }
  else if s.quoted then some { s with word := c :: s.word }
  else if c = '(' then some { outer := s.closed :: s.outer }
  else if c = ')' then
    match s.outer with
    | [] => none
    | before :: outer => some { nodes := .group s.closed.reverse :: before, outer }
  else if c = ' ' then some { s with word := [], nodes := s.closed }
  else some { s with word := c :: s.word }

def run (s : Scan) (cs : List Char) : Option Scan := cs.foldlM step s

end Scan

/-- The nodes of a text, if it is balanced. -/
def nodes? (text : String) : Option (List Node) :=
  match Scan.run {} text.toList with
  | some s => if s.quoted || !s.outer.isEmpty then none else some s.closed.reverse
  | none => none

/-- What a condition says, given what its parts without `AND`, `OR` and parentheses say. -/
abbrev Reader := List Node → Truth

namespace Reader
variable (v : Reader)

def isWord (w : String) : Node × Truth → Bool
  | (.word text, _) => text = w.toList
  | _ => false

/-- A part without `AND` and `OR`; no text is no restriction. -/
def part : List (Node × Truth) → Truth
  | [] => .yes
  | [(.group _, t)] => t
  | [(.word ['1'], _), (.word ['='], _), (.word ['0'], _)] => .no
  | nodes => v (nodes.map Prod.fst)

def conjunction (nodes : List (Node × Truth)) : Truth :=
  (nodes.splitOnP (isWord "AND")).foldr (fun part rest => (v.part part).and rest) .yes

/-- `AND` binds more tightly than `OR`. -/
def disjunction (nodes : List (Node × Truth)) : Truth :=
  (nodes.splitOnP (isWord "OR")).foldr (fun part rest => (v.conjunction part).or rest) .no

mutual

def node : Node → Truth
  | .word _ => .unknown
  | .group inner => v.disjunction (nodes inner)

def nodes : List Node → List (Node × Truth)
  | [] => []
  | n :: rest => (n, node n) :: nodes rest

end

/-- What the text of a condition says; what is not balanced says nothing. -/
def text (text : String) : Truth :=
  match nodes? text with
  | some ns => v.disjunction (v.nodes ns)
  | none => .unknown

end Reader

theorem Pairs.append {cs ds : List Char} (hc : Pairs cs) (hd : Pairs ds) : Pairs (cs ++ ds) := by
  induction hc with
  | nil => exact hd
  | plain hquote hopen hclose _ ih => exact .plain hquote hopen hclose ih
  | literal hquoted _ ih =>
    rw [List.cons_append, List.append_assoc]
    exact .literal hquoted ih
  | parens hinner _ _ ih =>
    rw [List.cons_append, List.append_assoc]
    exact .parens hinner ih

namespace Balanced
variable {s t : String}

theorem append (hs : Balanced s) (ht : Balanced t) : Balanced (s ++ t) := by
  unfold Balanced
  rw [String.toList_append]
  exact Pairs.append hs ht

theorem of_eq (h : s = t) (ht : Balanced t) : Balanced s := h ▸ ht

theorem parens (hs : Balanced s) : Balanced ("(" ++ s ++ ")") := by
  unfold Balanced
  rw [String.toList_append, String.toList_append]
  exact Pairs.parens hs .nil

theorem applied (hs : Balanced s) (ht : Balanced t) : Balanced (s ++ "(" ++ t ++ ")") := by
  have htext : s ++ "(" ++ t ++ ")" = s ++ ("(" ++ t ++ ")") := by simp only [String.append_assoc]
  exact .of_eq htext (hs.append ht.parens)

theorem literal (hs : s.toList.all (· ≠ '\'') = true) : Balanced ("'" ++ s ++ "'") := by
  have hquoted : ∀ c ∈ s.toList, c ≠ '\'' := by simpa using hs
  unfold Balanced
  rw [String.toList_append, String.toList_append]
  exact Pairs.literal hquoted .nil

/-- A text without quotes and parentheses is balanced. -/
theorem of_plain (h : s.toList.all isPlain = true) : Balanced s := by
  unfold Balanced
  generalize s.toList = cs at h
  induction cs with
  | nil => exact .nil
  | cons c cs ih =>
    obtain ⟨hc, hcs⟩ := Bool.and_eq_true_iff.mp h
    obtain ⟨hquote, hopen, hclose⟩ : c ≠ '\'' ∧ c ≠ '(' ∧ c ≠ ')' := by simpa [isPlain] using hc
    exact .plain hquote hopen hclose (ih hcs)

end Balanced

namespace Scan
variable {cs ds : List Char} {word quoted : List Char} {nodes : List Node}
  {outer : List (List Node)} {s : Scan} {c : Char}

@[simp] theorem run_nil : run s [] = some s := rfl

@[simp] theorem run_cons : run s (c :: cs) = (step s c).bind (run · cs) := by
  simp only [run, List.foldlM_cons, Option.bind_eq_bind]

@[simp] theorem run_append : run s (cs ++ ds) = (run s cs).bind (run · ds) := by
  simp only [run, List.foldlM_append, Option.bind_eq_bind]

theorem run_quoted (hq : ∀ c ∈ quoted, c ≠ '\'') :
    run ⟨true, word, nodes, outer⟩ quoted = some ⟨true, quoted.reverse ++ word, nodes, outer⟩ := by
  induction quoted generalizing word with
  | nil => rfl
  | cons c quoted ih =>
    have hc := hq c List.mem_cons_self
    rw [run_cons]
    simp only [step, hc, if_false, if_true, Option.bind_some]
    rw [ih fun d hd => hq d (List.mem_cons_of_mem _ hd)]
    simp

theorem closed_append (nodes base : List Node) :
    closed ⟨false, word, nodes ++ base, outer⟩ = closed ⟨false, word, nodes, []⟩ ++ base := by
  unfold closed
  split <;> simp

/-- A balanced text adds to the word and the nodes, whatever nodes stand before it and whatever
parentheses are open around it. -/
theorem run_pairs (hc : Pairs cs) (word : List Char) (nodes : List Node) :
    ∃ word' nodes', ∀ base outer,
      run ⟨false, word, nodes ++ base, outer⟩ cs = some ⟨false, word', nodes' ++ base, outer⟩ := by
  induction hc generalizing word nodes with
  | nil => exact ⟨word, nodes, fun _ _ => rfl⟩
  | @plain c cs hquote hopen hclose _ ih =>
    by_cases hblank : c = ' '
    · obtain ⟨word', nodes', hrun⟩ := ih [] (closed ⟨false, word, nodes, []⟩)
      refine ⟨word', nodes', fun base outer => ?_⟩
      have hstep : step ⟨false, word, nodes ++ base, outer⟩ ' ' =
          some ⟨false, [], closed ⟨false, word, nodes ++ base, outer⟩, outer⟩ := rfl
      rw [run_cons, hblank, hstep, closed_append]
      exact hrun base outer
    · obtain ⟨word', nodes', hrun⟩ := ih (c :: word) nodes
      refine ⟨word', nodes', fun base outer => ?_⟩
      rw [run_cons]
      simp only [step, hquote, hopen, hclose, hblank, if_false, Bool.false_eq_true,
        Option.bind_some]
      exact hrun base outer
  | @literal quoted cs hquoted _ ih =>
    obtain ⟨word', nodes', hrun⟩ := ih ('\'' :: (quoted.reverse ++ '\'' :: word)) nodes
    refine ⟨word', nodes', fun base outer => ?_⟩
    rw [run_cons]
    simp only [step, if_true, Option.bind_some, Bool.not_false, run_append, run_quoted hquoted,
      run_cons, Bool.not_true]
    exact hrun base outer
  | @parens inner cs _ _ ihInner ih =>
    obtain ⟨wordIn, nodesIn, hinner⟩ := ihInner [] []
    obtain ⟨word', nodes', hrun⟩ := ih []
      (.group (closed ⟨false, wordIn, nodesIn, []⟩).reverse :: closed ⟨false, word, nodes, []⟩)
    refine ⟨word', nodes', fun base outer => ?_⟩
    have hopened : step ⟨false, word, nodes ++ base, outer⟩ '(' =
        some ⟨false, [], [], closed ⟨false, word, nodes ++ base, outer⟩ :: outer⟩ := rfl
    have hinside := hinner [] (closed ⟨false, word, nodes ++ base, outer⟩ :: outer)
    simp only [List.append_nil] at hinside
    rw [run_cons, hopened, Option.bind_some, run_append, hinside, Option.bind_some, run_cons,
      closed_append]
    exact hrun base outer

theorem run_word (hw : ∀ c ∈ cs, isPlain c = true ∧ c ≠ ' ') :
    run ⟨false, word, nodes, outer⟩ cs = some ⟨false, cs.reverse ++ word, nodes, outer⟩ := by
  induction cs generalizing word with
  | nil => rfl
  | cons c cs ih =>
    obtain ⟨hplain, hblank⟩ := hw c List.mem_cons_self
    obtain ⟨hquote, hopen, hclose⟩ : c ≠ '\'' ∧ c ≠ '(' ∧ c ≠ ')' := by
      simpa [isPlain] using hplain
    rw [run_cons]
    simp only [step, hquote, hopen, hclose, hblank, if_false, Bool.false_eq_true,
      Option.bind_some]
    rw [ih fun d hd => hw d (List.mem_cons_of_mem _ hd)]
    simp

/-- A blank ends a word. -/
theorem run_spaced (hw : IsWord cs) :
    run ⟨false, [], nodes, outer⟩ (cs ++ [' ']) = some ⟨false, [], .word cs :: nodes, outer⟩ := by
  rw [run_append, run_word hw.2, Option.bind_some, List.append_nil]
  simp [step, closed, hw.1]

end Scan

section Nodes
variable {s t : String} {ns ms : List Node}

theorem run_balanced (hs : Balanced s) (hn : nodes? s = some ns) : ∃ word inside,
    (Scan.closed ⟨false, word, inside, []⟩).reverse = ns ∧ ∀ base outer,
      Scan.run ⟨false, [], base, outer⟩ s.toList = some ⟨false, word, inside ++ base, outer⟩ := by
  obtain ⟨word, inside, hrun⟩ := Scan.run_pairs hs [] []
  refine ⟨word, inside, ?_, hrun⟩
  have hstart := hrun [] []
  simp only [List.append_nil] at hstart
  rw [nodes?, hstart] at hn
  exact Option.some.inj hn

/-- In parentheses the nodes of a balanced text are one node. -/
theorem run_parens (hs : Balanced s) (hn : nodes? s = some ns) (nodes : List Node)
    (outer : List (List Node)) :
    Scan.run ⟨false, [], nodes, outer⟩ ('(' :: (s.toList ++ [')'])) =
      some ⟨false, [], .group ns :: nodes, outer⟩ := by
  obtain ⟨word, inside, hns, hrun⟩ := run_balanced hs hn
  have hopened : Scan.step ⟨false, [], nodes, outer⟩ '(' =
      some ⟨false, [], [], nodes :: outer⟩ := rfl
  rw [Scan.run_cons, hopened, Option.bind_some, Scan.run_append, hrun, Option.bind_some,
    List.append_nil, ← hns]
  rfl

theorem nodes?_of_balanced (hs : Balanced s) : ∃ ns, nodes? s = some ns := by
  obtain ⟨word, inside, hrun⟩ := Scan.run_pairs hs [] []
  have hstart : Scan.run {} s.toList = some ⟨false, word, inside ++ [], []⟩ := hrun [] []
  exact ⟨_, by rw [nodes?, hstart]; rfl⟩

/-- Two balanced texts in parentheses with a word between are two groups with that word between. -/
theorem nodes?_connected {word : String} (hword : IsWord word.toList) (hs : Balanced s)
    (ht : Balanced t) (hns : nodes? s = some ns) (hms : nodes? t = some ms) :
    nodes? ("(" ++ s ++ ") " ++ word ++ " (" ++ t ++ ")") =
      some [.group ns, .word word.toList, .group ms] := by
  have htext : ("(" ++ s ++ ") " ++ word ++ " (" ++ t ++ ")").toList =
      '(' :: (s.toList ++ [')']) ++
        (' ' :: (word.toList ++ [' ']) ++ '(' :: (t.toList ++ [')'])) := by
    simp [String.toList_append]
  have hblank : Scan.run ⟨false, [], [.group ns], []⟩ (' ' :: (word.toList ++ [' '])) =
      some ⟨false, [], [.word word.toList, .group ns], []⟩ := Scan.run_spaced hword
  have hrun : Scan.run {} ("(" ++ s ++ ") " ++ word ++ " (" ++ t ++ ")").toList =
      some ⟨false, [], [.group ms, .word word.toList, .group ns], []⟩ := by
    rw [htext, Scan.run_append, run_parens hs hns, Option.bind_some, Scan.run_append, hblank,
      Option.bind_some, run_parens ht hms]
  rw [nodes?, hrun]
  rfl

end Nodes

namespace Reader
variable (v : Reader)

theorem text_empty : v.text "" = .yes := rfl

end Reader

variable {v : Reader} {a b f : Fragment} {fs : List Fragment}

abbrev Fragment.Balanced (f : Fragment) : Prop := Sql.Balanced f.sql

theorem Fragment.connect_sql {word : String} (ha : a.sql ≠ "") (hb : b.sql ≠ "") :
    (connect word a b).sql = "(" ++ a.sql ++ ") " ++ word ++ " (" ++ b.sql ++ ")" := by
  simp [connect, isEmpty, ha, hb]

theorem Fragment.Balanced.connect {word : String} (hw : Sql.Balanced word) (ha : a.Balanced)
    (hb : b.Balanced) : (connect word a b).Balanced := by
  unfold Fragment.connect Fragment.Balanced
  split
  · exact hb
  · split
    · exact ha
    · have hblank : Sql.Balanced " " := .of_plain rfl
      have htext : "(" ++ a.sql ++ ") " ++ word ++ " (" ++ b.sql ++ ")" =
          "(" ++ a.sql ++ ")" ++ (" " ++ word ++ " ") ++ ("(" ++ b.sql ++ ")") := by
        simp [← String.toList_inj, String.toList_append]
      rw [htext]
      exact (ha.parens.append ((hblank.append hw).append hblank)).append hb.parens

theorem Fragment.Balanced.and (ha : a.Balanced) (hb : b.Balanced) : (a.and b).Balanced :=
  ha.connect (.of_plain rfl) hb

/-- Two conditions in parentheses with a word between are read as two groups with that word
between. -/
theorem Reader.text_joined {s t : String} (word : String) (hword : IsWord word.toList)
    (hs : Sql.Balanced s) (ht : Sql.Balanced t) :
    ∃ ns ms, v.text s = v.disjunction (v.nodes ns) ∧ v.text t = v.disjunction (v.nodes ms) ∧
      v.text ("(" ++ s ++ ") " ++ word ++ " (" ++ t ++ ")") =
        v.disjunction (v.nodes [.group ns, .word word.toList, .group ms]) := by
  obtain ⟨ns, hns⟩ := nodes?_of_balanced hs
  obtain ⟨ms, hms⟩ := nodes?_of_balanced ht
  exact ⟨ns, ms, by rw [text, hns], by rw [text, hms],
    by rw [text, nodes?_connected hword hs ht hns hms]⟩

/-- A conjunction in parentheses says what both conditions say together. -/
theorem Reader.text_and (ha : a.Balanced) (hb : b.Balanced) :
    v.text (a.and b).sql = (v.text a.sql).and (v.text b.sql) := by
  unfold Fragment.and Fragment.connect
  split
  case isTrue hempty =>
    have hsql : a.sql = "" := by simpa [Fragment.isEmpty] using hempty
    rw [hsql, text_empty, Truth.yes_and]
  case isFalse =>
    split
    case isTrue hempty =>
      have hsql : b.sql = "" := by simpa [Fragment.isEmpty] using hempty
      rw [hsql, text_empty, Truth.and_yes]
    case isFalse =>
      obtain ⟨as, bs, has, hbs, hboth⟩ := v.text_joined "AND" (by decide) ha hb
      -- there is no `OR` among the three nodes, and one `AND`
      have hdisjunction : v.disjunction (v.nodes [.group as, .word "AND".toList, .group bs]) =
          (v.conjunction (v.nodes [.group as, .word "AND".toList, .group bs])).or .no := rfl
      have hconjunction : v.conjunction (v.nodes [.group as, .word "AND".toList, .group bs]) =
          (v.disjunction (v.nodes as)).and ((v.disjunction (v.nodes bs)).and .yes) := rfl
      rw [hboth, has, hbs, hdisjunction, hconjunction, Truth.or_no, Truth.and_yes]

/-- A disjunction in parentheses says what either condition says; without text there is no
condition. -/
theorem Reader.text_or (ha : a.Balanced) (hb : b.Balanced) (hsa : a.sql ≠ "") (hsb : b.sql ≠ "") :
    v.text (a.or b).sql = (v.text a.sql).or (v.text b.sql) := by
  obtain ⟨as, bs, has, hbs, heither⟩ := v.text_joined "OR" (by decide) ha hb
  have htext : (a.or b).sql = "(" ++ a.sql ++ ") " ++ "OR" ++ " (" ++ b.sql ++ ")" :=
    Fragment.connect_sql hsa hsb
  have hgroup : ∀ ns : List Node, v.conjunction (v.nodes [.group ns]) =
      (v.disjunction (v.nodes ns)).and .yes := fun _ => rfl
  have hdisjunction : v.disjunction (v.nodes [.group as, .word "OR".toList, .group bs]) =
      (v.conjunction (v.nodes [.group as])).or ((v.conjunction (v.nodes [.group bs])).or .no) := rfl
  rw [htext, heither, has, hbs, hdisjunction, hgroup, hgroup, Truth.or_no, Truth.and_yes,
    Truth.and_yes]

theorem Reader.text_never : v.text Fragment.never.sql = .no := rfl

theorem never_balanced : Fragment.never.Balanced := .of_plain rfl

/-- Conditions joined by `AND` say together what each of them says. -/
theorem Reader.text_foldl_all (hf : f.Balanced) (hfs : ∀ g ∈ fs, g.Balanced) :
    v.text (fs.foldl Fragment.and f).sql = .all ((f :: fs).map (v.text ·.sql)) := by
  induction fs generalizing f with
  | nil => simp [Truth.all]
  | cons g fs ih =>
    have hg : g.Balanced := hfs g List.mem_cons_self
    rw [List.foldl_cons, ih (hf.and hg) fun k hk => hfs k (List.mem_cons_of_mem _ hk)]
    simp only [List.map_cons, Truth.all_cons, text_and hf hg, Truth.and_assoc]

section Texts
variable {s : String}

theorem balanced_yearOf (hs : Balanced s) (d : Dialect) : Balanced (d.yearOf s) := by
  cases d with
  | sqlite =>
    have htext : "CAST(strftime('%Y', " ++ s ++ ") AS INTEGER)" = "CAST" ++ ("(" ++ ("strftime" ++
        ("(" ++ ("'" ++ "%Y" ++ "'" ++ ", " ++ s) ++ ")") ++ " AS INTEGER") ++ ")") := by
      simp [← String.toList_inj]
    have hformat : Balanced ("'" ++ "%Y" ++ "'" ++ ", " ++ s) :=
      (Balanced.append (.literal rfl) (.of_plain rfl)).append hs
    have hname : Balanced "strftime" := .of_plain rfl
    have hcast : Balanced "CAST" := .of_plain rfl
    exact .of_eq htext
      (hcast.append ((hname.append hformat.parens).append (.of_plain rfl)).parens)
  | postgres | mysql =>
    have htext : "EXTRACT(YEAR FROM " ++ s ++ ")" =
        "EXTRACT" ++ ("(" ++ ("YEAR FROM " ++ s) ++ ")") := by
      simp [← String.toList_inj]
    have hyear : Balanced "YEAR FROM " := .of_plain rfl
    have hname : Balanced "EXTRACT" := .of_plain rfl
    exact .of_eq htext (hname.append (hyear.append hs).parens)

theorem balanced_markerList (n : Nat) : Balanced (", ".intercalate (List.replicate n "?")) := by
  have hmark : Balanced "?" := .of_plain rfl
  have hcomma : Balanced ", " := .of_plain rfl
  induction n with
  | zero => exact .of_plain (by simp)
  | succ n ih =>
    cases n with
    | zero => simpa using hmark
    | succ n =>
      rw [List.replicate_succ, String.intercalate_cons_of_ne_nil (by simp)]
      exact (hmark.append hcomma).append ih

theorem Balanced.lower (hs : Balanced s) : Balanced ("LOWER(" ++ s ++ ")") := by
  have hname : Balanced "LOWER" := .of_plain rfl
  have htext : "LOWER(" ++ s ++ ")" = "LOWER" ++ ("(" ++ s ++ ")") := by
    simp [← String.toList_inj]
  exact .of_eq htext (hname.append hs.parens)

theorem Operand.balanced_sql (left : Operand) (op : Comparison) (right : Param) (d : Dialect)
    (h : ∀ s ∈ (Predicate.compare left op right).fields, Balanced s) : Balanced (left.sql d) := by
  cases left with
  | field name => exact h name List.mem_cons_self
  | yearOf name => exact balanced_yearOf (h name List.mem_cons_self) d

namespace Predicate

theorem balanced_sameText (hs : Balanced s) : Balanced ("LOWER(" ++ s ++ ") = LOWER(?)") := by
  have hmark : Balanced "?" := .of_plain rfl
  have hequals : Balanced " = " := .of_plain rfl
  have htext : "LOWER(" ++ s ++ ") = LOWER(?)" =
      "LOWER(" ++ s ++ ")" ++ " = " ++ ("LOWER(" ++ "?" ++ ")") := by
    simp [← String.toList_inj]
  exact .of_eq htext ((hs.lower.append hequals).append hmark.lower)

theorem balanced_likeText (caps : Capabilities) (hs : Balanced s) :
    Balanced (likeText caps s) := by
  have hmark : Balanced " ? ESCAPE " := .of_plain rfl
  have hbang : Balanced ("'" ++ "!" ++ "'") := .literal rfl
  have hescape : Balanced " ? ESCAPE '!'" := .of_eq (by decide) (hmark.append hbang)
  have htext : "LOWER(" ++ s ++ ") LIKE" = "LOWER(" ++ s ++ ")" ++ " LIKE" := by
    simp [← String.toList_inj]
  have hlike : Balanced (if caps.ilike then s ++ " ILIKE" else "LOWER(" ++ s ++ ") LIKE") := by
    split
    · exact hs.append (.of_plain rfl)
    · exact .of_eq htext (hs.lower.append (.of_plain rfl))
  exact hlike.append hescape

theorem balanced_blank (hs : Balanced s) :
    Balanced ("(" ++ s ++ " = '' OR " ++ s ++ " IS NULL)") := by
  have hquotes : Balanced ("'" ++ "" ++ "'") := .literal rfl
  have hequals : Balanced (" = " ++ ("'" ++ "" ++ "'") ++ " OR ") :=
    (Balanced.append (.of_plain rfl) hquotes).append (.of_plain rfl)
  have htext : "(" ++ s ++ " = '' OR " ++ s ++ " IS NULL)" =
      "(" ++ (s ++ (" = " ++ ("'" ++ "" ++ "'") ++ " OR ") ++ (s ++ " IS NULL")) ++ ")" := by
    simp [← String.toList_inj]
  exact .of_eq htext ((hs.append hequals).append (hs.append (.of_plain rfl))).parens

theorem balanced_inList (ids : List Int) (hs : Balanced s) : Balanced (inList s ids).sql := by
  have hids := balanced_markerList ids.length
  rw [← List.map_const'] at hids
  have htext : (inList s ids).sql =
      s ++ " IN " ++ ("(" ++ ", ".intercalate (ids.map fun _ => "?") ++ ")") := by
    simp [← String.toList_inj, inList]
  have hin : Balanced " IN " := .of_plain rfl
  exact .of_eq htext ((hs.append hin).append hids.parens)

/-- Nothing but the empty condition has no text. -/
theorem fragment_ne_empty {p : Predicate} {caps : Capabilities} (hp : p ≠ nothing)
    (hboth : ∀ a b, p ≠ and a b ∧ p ≠ or a b) : (p.fragment caps).sql ≠ "" := by
  cases p with
  | nothing => exact absurd rfl hp
  | and a b => exact absurd rfl (hboth a b).1
  | or a b => exact absurd rfl (hboth a b).2
  | never => simp [fragment, Fragment.never]
  | compare left op right => simp [fragment, Fragment.ofParam]
  | sameText field value => simp [fragment, Fragment.ofParam]
  | like field pattern => simp [fragment, Fragment.ofParam, likeText]
  | blank field => simp [fragment]
  | isIn field ids => simp [fragment, inList]
  | both a b => simp [fragment]

/-- Conditions on fields with balanced names have balanced texts. -/
theorem fragment_balanced (caps : Capabilities) (p : Predicate)
    (h : ∀ s ∈ p.fields, Balanced s) : (p.fragment caps).Balanced := by
  induction p with
  | nothing => exact Pairs.nil
  | never => exact never_balanced
  | compare left op right =>
    have hleft := Operand.balanced_sql left op right caps.dialect h
    have hop : Balanced op.sql := by cases op <;> exact .of_plain rfl
    exact ((hleft.append (.of_plain rfl)).append hop).append (.of_plain rfl)
  | sameText field value => exact balanced_sameText (h field List.mem_cons_self)
  | like field pattern => exact balanced_likeText caps (h field List.mem_cons_self)
  | blank field => exact balanced_blank (h field List.mem_cons_self)
  | isIn field ids => exact balanced_inList ids (h field List.mem_cons_self)
  | both a b iha ihb =>
    have ha := iha fun s hs => h s (List.mem_append_left _ hs)
    have hb := ihb fun s hs => h s (List.mem_append_right _ hs)
    exact (Balanced.append ha (.of_plain rfl)).append hb
  | and a b iha ihb =>
    exact (iha fun s hs => h s (List.mem_append_left _ hs)).and
      (ihb fun s hs => h s (List.mem_append_right _ hs))
  | or a b iha ihb =>
    exact (iha fun s hs => h s (List.mem_append_left _ hs)).connect (.of_plain rfl)
      (ihb fun s hs => h s (List.mem_append_right _ hs))

end Predicate

end Texts

end TableView.Sql
