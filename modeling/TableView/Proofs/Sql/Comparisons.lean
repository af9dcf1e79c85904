import TableView.Proofs.Sql.Numbering
import TableView.Proofs.Text.Digits

/-! Reading the comparisons of a condition back from its text, each marker as the value it stands
for: the text says of a row what the condition says. -/
namespace TableView.Sql
open Text (CaseFolding)

section Nodes
variable {s t : String} {ns ms : List Node}

theorem nodes?_word (hs : IsWord s.toList) : nodes? s = some [.word s.toList] := by
  have hrun : Scan.run {} s.toList = some ⟨false, s.toList.reverse ++ [], [], []⟩ :=
    Scan.run_word hs.2
  rw [nodes?, hrun]
  simp [Scan.closed, hs.1]

/-- A blank parts two texts. -/
theorem nodes?_spaced (hs : Balanced s) (ht : Balanced t) (hns : nodes? s = some ns)
    (hms : nodes? t = some ms) : nodes? (s ++ " " ++ t) = some (ns ++ ms) := by
  obtain ⟨word, inside, rfl, hfirst⟩ := run_balanced hs hns
  obtain ⟨word', inside', rfl, hsecond⟩ := run_balanced ht hms
  have hbefore : Scan.run {} s.toList = some ⟨false, word, inside ++ [], []⟩ := hfirst [] []
  have hblank : Scan.step ⟨false, word, inside ++ [], []⟩ ' ' =
      some ⟨false, [], Scan.closed ⟨false, word, inside ++ [], []⟩, []⟩ := rfl
  have htext : (s ++ " " ++ t).toList = s.toList ++ ' ' :: t.toList := by
    simp [String.toList_append]
  rw [nodes?, htext, Scan.run_append, hbefore, Option.bind_some, Scan.run_cons, hblank,
    Option.bind_some, hsecond]
  simp [Scan.closed_append]

/-- Parentheses right behind a text. -/
theorem nodes?_applied (hs : Balanced s) (ht : Balanced t) (hns : nodes? s = some ns)
    (hms : nodes? t = some ms) : nodes? (s ++ "(" ++ t ++ ")") = some (ns ++ [.group ms]) := by
  obtain ⟨word, inside, rfl, hfirst⟩ := run_balanced hs hns
  have hbefore : Scan.run {} s.toList = some ⟨false, word, inside ++ [], []⟩ := hfirst [] []
  -- the parenthesis ends the word before it, as a blank would
  have hopened : Scan.run ⟨false, word, inside ++ [], []⟩ ('(' :: (t.toList ++ [')'])) =
      Scan.run ⟨false, [], Scan.closed ⟨false, word, inside ++ [], []⟩, []⟩
        ('(' :: (t.toList ++ [')'])) := rfl
  have htext : (s ++ "(" ++ t ++ ")").toList = s.toList ++ '(' :: (t.toList ++ [')']) := by
    simp [String.toList_append]
  rw [nodes?, htext, Scan.run_append, hbefore, Option.bind_some, hopened, run_parens ht hms]
  simp [Scan.closed]

end Nodes

/-- A name that reads as one word, not as a marker and not as a connective. -/
def IsName (s : String) : Prop := IsWord s.toList ∧ '?' ∉ s.toList ∧ s ≠ "AND" ∧ s ≠ "OR"

instance (s : String) : Decidable (IsName s) := inferInstanceAs (Decidable (_ ∧ _))

/-- The value that a numbered marker stands for. -/
def bound? (ps : List Param) : List Char → Option Param
  | '?' :: digits => do ps[(← Text.nat? digits) - 1]?
  | _ => none

/-- The numbers that markers with commas behind them stand for. -/
def boundIds? (ps : List Param) : List Node → Option (List Int)
  | [] => some []
  | .word marker :: rest =>
    match bound? ps (marker.filter (· ≠ ',')), boundIds? ps rest with
    | some (.integer n), some ids => some (n :: ids)
    | _, _ => none
  | .group _ :: _ => none

/-- The comparison that a part of a condition is. -/
def comparison? (ps : List Param) : List Node → Option Condition
  | [.word field, .word op, .word marker] =>
    if op = "=".toList then
      (bound? ps marker).map fun p => .compare (.field (String.ofList field)) .eq (.bound p)
    else none
  | [.word field, .word op, .group markers] =>
    if op = "IN".toList then
      (boundIds? ps markers).map fun ids => .isIn (.field (String.ofList field)) ids
    else none
  | [.word function, .group [.word field], .word op, .word marker, .word escape, .word character] =>
    if function = "LOWER".toList ∧ op = "LIKE".toList ∧ escape = "ESCAPE".toList ∧
        character = "'!'".toList then
      (bound? ps marker).map fun p => .like false (.lower (.field (String.ofList field))) p
    else none
  | _ => none

/-- What the parts of a condition say about a row, under the values bound to its markers. -/
def comparisons (F : CaseFolding) (ps : List Param) (row : Row) : Reader := fun ns =>
  match comparison? ps ns with
  | some c => c.truth F row
  | none => .unknown

section Markers

theorem bound?_placeholder (before after : List Param) (p : Param) :
    bound? (before ++ p :: after) (Dialect.sqlite.placeholder (before.length + 1)).toList =
      some p := by
  have hdigits : Text.AreDigits (Nat.toDigits 10 (before.length + 1)) := fun c hc =>
    Nat.isDigit_of_mem_toDigits (by omega) (by omega) hc
  have hread : Text.nat? (Nat.toDigits 10 (before.length + 1)) = some (before.length + 1) := by
    rw [Text.nat?_of_areDigits hdigits Nat.toDigits_ne_nil, Text.digitsValue_eq,
      Nat.ofDigitChars_toDigits (by omega) (by omega)]
  rw [placeholder_toList, bound?, hread]
  simp

/-- The comma that parts two markers is read as part of the first. -/
theorem boundIds?_cons (before after : List Param) (n : Int) (suffix : List Char)
    (hsuffix : suffix.filter (· ≠ ',') = []) (rest : List Node) :
    boundIds? (before ++ .integer n :: after)
        (.word ((Dialect.sqlite.placeholder (before.length + 1)).toList ++ suffix) :: rest) =
      (boundIds? (before ++ .integer n :: after) rest).map (n :: ·) := by
  have hmarker : ((Dialect.sqlite.placeholder (before.length + 1)).toList ++ suffix).filter
      (· ≠ ',') = (Dialect.sqlite.placeholder (before.length + 1)).toList := by
    rw [List.filter_append, hsuffix, List.append_nil, List.filter_eq_self, placeholder_toList]
    intro c hc
    rcases List.mem_cons.mp hc with rfl | hc
    · rfl
    · have hdigit := Nat.isDigit_of_mem_toDigits (by omega) (by omega) hc
      simp only [ne_eq, decide_eq_true_eq]
      rintro rfl
      cases hdigit
  rw [boundIds?, hmarker, bound?_placeholder]
  cases boundIds? (before ++ .integer n :: after) rest <;> rfl

theorem boundIds?_markers (ids : List Int) (before after : List Param) : ∃ ns,
    nodes? (numbered before.length (", ".intercalate (ids.map fun _ => "?"))) = some ns ∧
    boundIds? (before ++ ids.map .integer ++ after) ns = some ids := by
  induction ids generalizing before with
  | nil => exact ⟨[], rfl, rfl⟩
  | cons n ids ih =>
    have hparams : before ++ (n :: ids).map Param.integer ++ after =
        before ++ .integer n :: (ids.map .integer ++ after) := by simp
    have hmarker := isWord_placeholder (before.length + 1)
    rw [hparams]
    cases ids with
    | nil =>
      refine ⟨[.word (Dialect.sqlite.placeholder (before.length + 1)).toList], ?_, ?_⟩
      · simpa [numbered_marker] using nodes?_word hmarker
      · simpa [boundIds?] using boundIds?_cons before after n [] rfl []
    | cons m ids =>
      obtain ⟨ns, hns, hids⟩ := ih (before ++ [.integer n])
      rw [List.length_append, List.length_singleton] at hns
      have hcomma : IsWord (Dialect.sqlite.placeholder (before.length + 1) ++ ",").toList := by
        rw [String.toList_append]
        refine ⟨by simp [hmarker.1], fun c hc => ?_⟩
        rcases List.mem_append.mp hc with hc | hc
        · exact hmarker.2 c hc
        · obtain rfl := List.mem_singleton.mp hc
          decide
      have htext : numbered before.length (", ".intercalate ((n :: m :: ids).map fun _ => "?")) =
          Dialect.sqlite.placeholder (before.length + 1) ++ "," ++ " " ++
            numbered (before.length + 1) (", ".intercalate ((m :: ids).map fun _ => "?")) := by
        have hmarked : Marked ("?" ++ ", ") 1 := by decide
        rw [List.map_cons, String.intercalate_cons_of_ne_nil (by simp), numbered_append hmarked,
          numbered_append (s := "?") (k := 1) (by decide), numbered_marker,
          numbered_of_clean (by decide)]
        simp [← String.toList_inj]
      refine ⟨.word (Dialect.sqlite.placeholder (before.length + 1) ++ ",").toList :: ns, ?_, ?_⟩
      · rw [htext]
        have hrest := balanced_markerList (m :: ids).length
        rw [← List.map_const'] at hrest
        exact nodes?_spaced (.of_plain (List.all_eq_true.mpr fun c hc => (hcomma.2 c hc).1))
          (hrest.numbered _) (nodes?_word hcomma) hns
      · rw [String.toList_append, boundIds?_cons before _ n _ rfl]
        simp_all

end Markers

/-- A part of a condition without connectives of its own. -/
structure Atomic (ns : List Node) : Prop where
  long : 2 ≤ ns.length
  not_and : .word "AND".toList ∉ ns
  not_or : .word "OR".toList ∉ ns
  not_never : ns ≠ [.word ['1'], .word ['='], .word ['0']]

section Atoms
variable {v : Reader} {s : String} {ns : List Node}

theorem Reader.nodes_eq_map (ns : List Node) : v.nodes ns = ns.map fun n => (n, v.node n) := by
  induction ns with
  | nil => rfl
  | cons n ns ih => rw [Reader.nodes, ih, List.map_cons]

theorem Reader.splitOnP_nodes {word : String} (h : .word word.toList ∉ ns) :
    (v.nodes ns).splitOnP (isWord word) = [v.nodes ns] := by
  apply List.splitOnP_eq_singleton
  rw [nodes_eq_map]
  intro e he
  obtain ⟨n, hn, rfl⟩ := List.mem_map.mp he
  cases n with
  | word text =>
    have hne : text ≠ word.toList := by rintro rfl; exact h hn
    simp [isWord, hne]
  | group inner => rfl

theorem Reader.text_atom (hs : nodes? s = some ns) (h : Atomic ns) : v.text s = v ns := by
  have hfst : (v.nodes ns).map Prod.fst = ns := by simp [nodes_eq_map, Function.comp_def]
  have hpart : v.part (v.nodes ns) = v ns := by
    have hlong := h.long
    have hnever := h.not_never
    rw [← hfst] at hlong hnever
    rw [part.eq_4, hfst]
    · rintro hnil
      simp [hnil] at hlong
    · rintro inner t hone
      simp [hone] at hlong
    · rintro t t' t'' hthree
      simp [hthree] at hnever
  rw [text, hs]
  simp only [disjunction, conjunction, splitOnP_nodes h.not_or, splitOnP_nodes h.not_and,
    List.foldr_cons, List.foldr_nil, hpart, Truth.and_yes, Truth.or_no]

end Atoms

namespace IsName
variable {s : String}

theorem clean (h : IsName s) : Clean s := by
  obtain ⟨hword, hmarker, -, -⟩ := h
  refine clean_of_plain fun c hc => ⟨?_, ?_⟩
  · rintro rfl
    have := (hword.2 _ hc).1
    cases this
  · rintro rfl
    exact hmarker hc

theorem balanced (h : IsName s) : Balanced s :=
  .of_plain (List.all_eq_true.mpr fun c hc => (h.1.2 c hc).1)

theorem ne_and (h : IsName s) : s.toList ≠ ['A', 'N', 'D'] :=
  fun he => h.2.2.1 (String.toList_inj.mp he)

theorem ne_or (h : IsName s) : s.toList ≠ ['O', 'R'] :=
  fun he => h.2.2.2 (String.toList_inj.mp he)

end IsName

namespace Predicate

/-- A comparison with a value, a list or a pattern, or such joined with parentheses around each. -/
def Elementary : Predicate → Prop
  | compare (.field _) .eq _ | like _ _ | isIn _ _ => True
  | and a b | or a b => Elementary a ∧ Elementary b
  | _ => False

theorem Elementary.ne_empty {p : Predicate} (hp : p.Elementary) : (p.fragment {}).sql ≠ "" := by
  induction p with
  | and a b iha ihb | or a b iha ihb =>
    simp [fragment, Fragment.and, Fragment.or, Fragment.connect, Fragment.isEmpty, iha hp.1,
      ihb hp.2]
  | nothing => exact hp.elim
  | _ => exact fragment_ne_empty (by simp) (by simp)

section Texts
variable {F : CaseFolding} {row : Row} {field : String}

theorem text_equals (hfield : IsName field) (value : Param) (before after : List Param) :
    (comparisons F (before ++ value :: after) row).text
        (numbered before.length (field ++ " = ?")) =
      Comparison.eq.truth (row field) value := by
  have hmarker := isWord_placeholder (before.length + 1)
  have htext : numbered before.length (field ++ " = ?") =
      field ++ " " ++ "=" ++ " " ++ Dialect.sqlite.placeholder (before.length + 1) := by
    have hequals : Marked " = " 0 := by decide
    have hparts : field ++ " = ?" = field ++ (" = " ++ "?") := by simp
    rw [hparts, numbered_clean_append hfield.clean, numbered_clean_append hequals, numbered_marker]
    simp [String.append_assoc]
  have hnodes : nodes? (numbered before.length (field ++ " = ?")) =
      some [.word field.toList, .word "=".toList,
        .word (Dialect.sqlite.placeholder (before.length + 1)).toList] := by
    have hequals : Balanced "=" := .of_plain rfl
    have hblank : Balanced " " := .of_plain rfl
    rw [htext]
    exact nodes?_spaced ((hfield.balanced.append hblank).append hequals) (balanced_placeholder _)
      (nodes?_spaced hfield.balanced hequals (nodes?_word hfield.1) (nodes?_word (by decide)))
      (nodes?_word hmarker)
  have hatomic : Atomic [.word field.toList, .word "=".toList,
      .word (Dialect.sqlite.placeholder (before.length + 1)).toList] := by
    constructor <;> simp [placeholder_toList, hfield.ne_and.symm, hfield.ne_or.symm]
  rw [Reader.text_atom hnodes hatomic, comparisons, comparison?, if_pos rfl, bound?_placeholder]
  simp [Condition.truth, Expr.value]

theorem text_contains (hfield : IsName field) (pattern : String) (before after : List Param) :
    (comparisons F (before ++ .text pattern :: after) row).text
        (numbered before.length (likeText {} field)) =
      Condition.likeTruth F false ((row field).folded F) (.text pattern) := by
  have hmarker := isWord_placeholder (before.length + 1)
  have htext : numbered before.length (likeText {} field) = "LOWER" ++ "(" ++ field ++ ")" ++ " " ++
      ("LIKE" ++ " " ++ (Dialect.sqlite.placeholder (before.length + 1) ++ " " ++
        ("ESCAPE" ++ " " ++ "'!'"))) := by
    have hopen : Clean "LOWER(" := by decide
    have hlike : Clean ") LIKE " := by decide
    have hparts : likeText {} field =
        "LOWER(" ++ (field ++ (") LIKE " ++ ("?" ++ " ESCAPE '!'"))) := by
      simp [likeText, String.append_assoc]
    rw [hparts, numbered_clean_append hopen, numbered_clean_append hfield.clean,
      numbered_clean_append hlike, numbered_append (s := "?") (k := 1) (by decide), numbered_marker,
      numbered_of_clean (by decide)]
    simp [← String.toList_inj]
  have hplaceholder := balanced_placeholder (before.length + 1)
  have hfunction : Balanced "LOWER" := .of_plain rfl
  have hoperator : Balanced "LIKE" := .of_plain rfl
  have hescape : Balanced "ESCAPE" := .of_plain rfl
  have hcharacter : Balanced "'!'" := .literal (s := "!") rfl
  have hblank : Balanced " " := .of_plain rfl
  have hend := (hescape.append hblank).append hcharacter
  have hbound := (hplaceholder.append hblank).append hend
  have hnodes : nodes? (numbered before.length (likeText {} field)) =
      some [.word "LOWER".toList, .group [.word field.toList], .word "LIKE".toList,
        .word (Dialect.sqlite.placeholder (before.length + 1)).toList, .word "ESCAPE".toList,
        .word "'!'".toList] := by
    rw [htext]
    exact nodes?_spaced (hfunction.applied hfield.balanced)
      ((hoperator.append hblank).append hbound)
      (nodes?_applied hfunction hfield.balanced (nodes?_word (by decide)) (nodes?_word hfield.1))
      (nodes?_spaced hoperator hbound (nodes?_word (by decide))
        (nodes?_spaced hplaceholder hend (nodes?_word hmarker)
          (nodes?_spaced hescape hcharacter (nodes?_word (by decide)) rfl)))
  have hatomic : Atomic [.word "LOWER".toList, .group [.word field.toList], .word "LIKE".toList,
      .word (Dialect.sqlite.placeholder (before.length + 1)).toList, .word "ESCAPE".toList,
      .word "'!'".toList] := by
    constructor <;> simp [placeholder_toList]
  rw [Reader.text_atom hnodes hatomic, comparisons, comparison?, if_pos ⟨rfl, rfl, rfl, rfl⟩,
    bound?_placeholder]
  simp [Condition.truth, Expr.value]

theorem text_inList (hfield : IsName field) (ids : List Int) (before after : List Param) :
    (comparisons F (before ++ ids.map .integer ++ after) row).text
        (numbered before.length (inList field ids).sql) =
      (Condition.isIn (.field field) ids).truth F row := by
  obtain ⟨ns, hns, hids⟩ := boundIds?_markers ids before after
  have htext : numbered before.length (inList field ids).sql = field ++ " " ++ "IN" ++ " " ++
      ("" ++ "(" ++ numbered before.length (", ".intercalate (ids.map fun _ => "?")) ++ ")") := by
    have hopen : Clean " IN (" := by decide
    have hmarkers := marked_markerList ids.length
    rw [← List.map_const'] at hmarkers
    have hparts : (inList field ids).sql =
        field ++ (" IN (" ++ (", ".intercalate (ids.map fun _ => "?") ++ ")")) := by
      simp [inList, String.append_assoc]
    rw [hparts, numbered_clean_append hfield.clean, numbered_clean_append hopen,
      numbered_append hmarkers, numbered_of_clean (s := ")") (by decide)]
    simp [← String.toList_inj]
  have hnone : Balanced "" := .of_plain rfl
  have hin : Balanced "IN" := .of_plain rfl
  have hblank : Balanced " " := .of_plain rfl
  have hmarkers := balanced_markerList ids.length
  rw [← List.map_const'] at hmarkers
  have hlist := hmarkers.numbered before.length
  have hnodes : nodes? (numbered before.length (inList field ids).sql) =
      some [.word field.toList, .word "IN".toList, .group ns] := by
    rw [htext]
    exact nodes?_spaced ((hfield.balanced.append hblank).append hin) (hnone.applied hlist)
      (nodes?_spaced hfield.balanced hin (nodes?_word hfield.1) (nodes?_word (by decide)))
      (nodes?_applied hnone hlist rfl hns)
  have hatomic : Atomic [.word field.toList, .word "IN".toList, .group ns] := by
    constructor <;> simp [hfield.ne_and.symm, hfield.ne_or.symm]
  rw [Reader.text_atom hnodes hatomic, comparisons, comparison?, if_pos rfl, hids]
  simp

theorem numbered_balanced {p : Predicate} (hnames : ∀ s ∈ p.fields, IsName s) (n : Nat) :
    Fragment.Balanced ⟨numbered n (p.fragment {}).sql, []⟩ :=
  Balanced.numbered (p.fragment_balanced {} fun s hs => (hnames s hs).balanced) n

/-- The second part is numbered on from the values of the first. -/
theorem numbered_connect {word : String} (hword : Clean word) {a b : Predicate}
    (ha : a.Elementary) (hb : b.Elementary) (hnames : ∀ s ∈ a.fields ++ b.fields, IsName s)
    (n : Nat) :
    numbered n (Fragment.connect word (a.fragment {}) (b.fragment {})).sql =
      (Fragment.connect word ⟨numbered n (a.fragment {}).sql, []⟩
        ⟨numbered (n + (a.fragment {}).params.length) (b.fragment {}).sql, []⟩).sql := by
  have hfirst := a.fragment_wellFormed {} fun s hs => (hnames s (List.mem_append_left _ hs)).clean
  have hsecond := b.fragment_wellFormed {} fun s hs => (hnames s (List.mem_append_right _ hs)).clean
  have hopen : Clean "(" := by decide
  have hbetween : Clean (") " ++ word ++ " (") :=
    (Clean.append (by decide : Clean ") ") hword).append (by decide)
  have hclose : Clean ")" := by decide
  have hparts : (Fragment.connect word (a.fragment {}) (b.fragment {})).sql = "(" ++
      ((a.fragment {}).sql ++ (") " ++ word ++ " (" ++ ((b.fragment {}).sql ++ ")"))) := by
    rw [Fragment.connect_sql ha.ne_empty hb.ne_empty]
    simp only [String.append_assoc]
  rw [hparts, numbered_clean_append hopen, numbered_append hfirst, numbered_clean_append hbetween,
    numbered_append hsecond, numbered_of_clean hclose,
    Fragment.connect_sql (numbered_ne_empty ha.ne_empty n) (numbered_ne_empty hb.ne_empty _)]
  simp only [String.append_assoc]

/-- By induction on the condition; the values of what stands before and after it are bound in the
same statement. -/
theorem text_elementary {p : Predicate} (hp : p.Elementary) (hnames : ∀ s ∈ p.fields, IsName s)
    (before after : List Param) :
    (comparisons F (before ++ (p.fragment {}).params ++ after) row).text
        (numbered before.length (p.fragment {}).sql) = (p.condition {}).truth F row := by
  induction p generalizing before after with
  | compare left op right =>
    obtain name | _ := left
    · cases op with
      | eq =>
        have hfragment : (compare (.field name) .eq right).fragment {} =
            .ofParam (name ++ " = ?") right := by
          simp [fragment, Operand.sql, Comparison.sql, String.append_assoc]
        rw [hfragment, Fragment.ofParam, List.append_assoc, List.singleton_append]
        exact text_equals (hnames _ List.mem_cons_self) right before after
      | _ => exact hp.elim
    · exact hp.elim
  | like field pattern =>
    rw [fragment, Fragment.ofParam, List.append_assoc, List.singleton_append]
    exact text_contains (hnames _ List.mem_cons_self) pattern before after
  | isIn field ids => exact text_inList (hnames field List.mem_cons_self) ids before after
  | and a b iha ihb =>
    obtain ⟨hna, hnb⟩ := List.forall_mem_append.mp hnames
    have hfirst := iha hp.1 hna before ((b.fragment {}).params ++ after)
    have hsecond := ihb hp.2 hnb (before ++ (a.fragment {}).params) after
    simp only [List.append_assoc, List.length_append] at hfirst hsecond
    simp only [fragment, Fragment.and, Fragment.connect_params, List.append_assoc]
    rw [numbered_connect (by decide) hp.1 hp.2 hnames, condition, Condition.truth, ← hfirst,
      ← hsecond]
    exact Reader.text_and (numbered_balanced hna _) (numbered_balanced hnb _)
  | or a b iha ihb =>
    obtain ⟨hna, hnb⟩ := List.forall_mem_append.mp hnames
    have hfirst := iha hp.1 hna before ((b.fragment {}).params ++ after)
    have hsecond := ihb hp.2 hnb (before ++ (a.fragment {}).params) after
    simp only [List.append_assoc, List.length_append] at hfirst hsecond
    simp only [fragment, Fragment.or, Fragment.connect_params, List.append_assoc]
    rw [numbered_connect (by decide) hp.1 hp.2 hnames, condition, Condition.truth, ← hfirst,
      ← hsecond]
    exact Reader.text_or (numbered_balanced hna _) (numbered_balanced hnb _)
      (numbered_ne_empty hp.1.ne_empty _) (numbered_ne_empty hp.2.ne_empty _)
  | nothing | never | sameText _ _ | blank _ | both _ _ => exact hp.elim

end Texts
end Predicate
end TableView.Sql
