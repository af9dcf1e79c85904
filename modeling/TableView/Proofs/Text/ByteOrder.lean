import TableView.Proofs.Text.Digits

/-! The order of texts by their first character that differs: for digits of one length the order of
numbers, for plain texts the order of their bytes. -/
namespace TableView

namespace Text

variable {a b x y : List Char} {n m : Nat}

/-- The first character that differs is the lower one, or the text ends before it. -/
def Before (a b : List Char) : Prop := List.Lex (fun c d => c.toNat < d.toNat) a b

theorem before_irrefl (a : List Char) : ¬ Before a a :=
  List.lex_irrefl (fun c => Nat.lt_irrefl c.toNat) a

theorem before_asymm (h : Before a b) : ¬ Before b a :=
  List.lex_asymm (fun hlt => Nat.lt_asymm hlt) h

theorem before_cons_iff {c d : Char} :
    Before (c :: a) (d :: b) ↔ c.toNat < d.toNat ∨ c = d ∧ Before a b :=
  List.cons_lex_cons_iff

theorem before_cons_self {c : Char} : Before (c :: a) (c :: b) ↔ Before a b := by
  simp [before_cons_iff]

/-- Parts of one length are compared first, then what follows them. -/
theorem before_append_iff (h : a.length = b.length) :
    Before (a ++ x) (b ++ y) ↔ Before a b ∨ a = b ∧ Before x y := by
  induction a generalizing b with
  | nil =>
    obtain rfl := List.eq_nil_of_length_eq_zero h.symm
    simp [before_irrefl]
  | cons c a ih =>
    cases b with
    | nil => cases h
    | cons d b =>
      rw [List.cons_append, List.cons_append, before_cons_iff, before_cons_iff,
        ih (Nat.succ.inj h)]
      simp only [List.cons.injEq]
      tauto

theorem digit_lt_iff {c d : Char} (hc : c.isDigit = true) (hd : d.isDigit = true) :
    c.toNat < d.toNat ↔ digitValue c < digitValue d := by
  have hc := Char.isDigit_iff_toNat.mp hc
  have hd := Char.isDigit_iff_toNat.mp hd
  have h0 : '0'.toNat = 48 := rfl
  unfold digitValue
  omega

theorem digit_eq_iff {c d : Char} (hc : c.isDigit = true) (hd : d.isDigit = true) :
    c = d ↔ digitValue c = digitValue d := by
  have hc := Char.isDigit_iff_toNat.mp hc
  have hd := Char.isDigit_iff_toNat.mp hd
  have h0 : '0'.toNat = 48 := rfl
  rw [← Char.toNat_inj]
  unfold digitValue
  omega

theorem mul_add_lt_iff {k l p r s : Nat} (hr : r < p) (hs : s < p) :
    k * p + r < l * p + s ↔ k < l ∨ k = l ∧ r < s := by
  rcases Nat.lt_trichotomy k l with hlt | rfl | hgt
  · have hle : (k + 1) * p ≤ l * p := Nat.mul_le_mul_right p hlt
    rw [Nat.add_mul, Nat.one_mul] at hle
    omega
  · omega
  · have hle : (l + 1) * p ≤ k * p := Nat.mul_le_mul_right p hgt
    rw [Nat.add_mul, Nat.one_mul] at hle
    omega

/-- Of two numbers with as many digits the first digit that differs decides. -/
theorem digitsValue_cons_lt_iff {c d : Char} (ha : AreDigits (c :: a)) (hb : AreDigits (d :: b))
    (hlength : a.length = b.length) : digitsValue (c :: a) < digitsValue (d :: b) ↔
      c.toNat < d.toNat ∨ c = d ∧ digitsValue a < digitsValue b := by
  obtain ⟨hc, hrest⟩ := List.forall_mem_cons.mp ha
  obtain ⟨hd, hother⟩ := List.forall_mem_cons.mp hb
  have hvalue := digitsValue_lt hrest
  have hvalue' := digitsValue_lt hother
  rw [← hlength] at hvalue'
  rw [digitsValue_cons, digitsValue_cons, ← hlength, mul_add_lt_iff hvalue hvalue',
    digit_lt_iff hc hd, digit_eq_iff hc hd]

/-- Digits of one length are in the order of the numbers that they spell. -/
theorem before_iff_of_digits (ha : AreDigits a) (hb : AreDigits b) (hlength : a.length = b.length) :
    Before a b ↔ digitsValue a < digitsValue b := by
  induction a generalizing b with
  | nil =>
    obtain rfl := List.eq_nil_of_length_eq_zero hlength.symm
    simp [before_irrefl]
  | cons c a ih =>
    cases b with
    | nil => cases hlength
    | cons d b =>
      have hsame : a.length = b.length := Nat.succ.inj hlength
      rw [before_cons_iff, ih (List.forall_mem_cons.mp ha).2 (List.forall_mem_cons.mp hb).2 hsame,
        digitsValue_cons_lt_iff ha hb hsame]

theorem eq_of_digitsValue_eq (ha : AreDigits a) (hb : AreDigits b) (hlength : a.length = b.length)
    (h : digitsValue a = digitsValue b) : a = b := by
  induction a generalizing b with
  | nil => exact (List.eq_nil_of_length_eq_zero hlength.symm).symm
  | cons c a ih =>
    cases b with
    | nil => cases hlength
    | cons d b =>
      have hsame : a.length = b.length := Nat.succ.inj hlength
      have hlt := (not_congr (digitsValue_cons_lt_iff ha hb hsame)).mp h.not_lt
      have hgt := (not_congr (digitsValue_cons_lt_iff hb ha hsame.symm)).mp h.not_gt
      rw [not_or, not_and] at hlt hgt
      obtain rfl : c = d := Char.toNat_inj.mp (by omega)
      have hvalue := hlt.2 rfl
      have hvalue' := hgt.2 rfl
      rw [ih (List.forall_mem_cons.mp ha).2 (List.forall_mem_cons.mp hb).2 hsame (by omega)]

theorem eq_padded {width : Nat} (ha : AreDigits a) (hwidth : 0 < width) (hlength : a.length = width)
    (hvalue : digitsValue a = n) : a = padded width n := by
  have hlt : n < 10 ^ width := by
    rw [← hvalue, ← hlength]
    exact digitsValue_lt ha
  apply eq_of_digitsValue_eq ha (areDigits_padded width n)
  · rw [length_padded hwidth hlt, hlength]
  · rw [digitsValue_padded, hvalue]

/-- Numbers padded to one width are compared first, then what follows them. -/
theorem before_padded_iff {width : Nat} (hwidth : 0 < width) (hn : n < 10 ^ width)
    (hm : m < 10 ^ width) :
    Before (padded width n ++ x) (padded width m ++ y) ↔ n < m ∨ n = m ∧ Before x y := by
  have hlength : (padded width n).length = (padded width m).length := by
    rw [length_padded hwidth hn, length_padded hwidth hm]
  have hsame : padded width n = padded width m ↔ n = m := by
    constructor
    · intro h
      have hvalue := congrArg digitsValue h
      rwa [digitsValue_padded, digitsValue_padded] at hvalue
    · rintro rfl
      rfl
  rw [before_append_iff hlength, hsame,
    before_iff_of_digits (areDigits_padded _ _) (areDigits_padded _ _) hlength, digitsValue_padded,
    digitsValue_padded]

/-- Zeros at the end of digits do not count for their order. -/
theorem before_of_zeros {i j : Nat} (ha : AreDigits a) (hb : AreDigits b)
    (hlength : a.length + i = b.length + j)
    (h : Before (a ++ List.replicate i '0') (b ++ List.replicate j '0')) : Before a b := by
  induction a generalizing b with
  | nil =>
    cases b with
    | nil =>
      obtain rfl : i = j := by simpa using hlength
      exact absurd h (before_irrefl _)
    | cons d b => exact List.Lex.nil
  | cons c a ih =>
    have hrest := List.forall_mem_cons.mp ha
    cases b with
    | nil =>
      have hzeros : (c :: a ++ List.replicate i '0').length = (List.replicate j '0').length := by
        rw [List.length_append, List.length_replicate, List.length_replicate, hlength,
          List.length_nil, Nat.zero_add]
      rw [List.nil_append, before_iff_of_digits (ha.append (areDigits_zeros i)) (areDigits_zeros j)
        hzeros, digitsValue_zeros] at h
      exact absurd h (Nat.not_lt_zero _)
    | cons d b =>
      have hother := List.forall_mem_cons.mp hb
      rw [List.cons_append, List.cons_append, before_cons_iff] at h
      rw [before_cons_iff]
      refine h.imp_right fun hsame => ⟨hsame.1, ?_⟩
      apply ih hrest.2 hother.2 _ hsame.2
      simp only [List.length_cons] at hlength
      omega

def AreAscii (cs : List Char) : Prop := ∀ c ∈ cs, c.toNat < 128

theorem AreDigits.areAscii (h : AreDigits a) : AreAscii a := by
  intro c hc
  have hdigit := Char.isDigit_iff_toNat.mp (h c hc)
  have h9 : '9'.toNat = 57 := rfl
  omega

theorem AreAscii.append (ha : AreAscii a) (hb : AreAscii b) : AreAscii (a ++ b) :=
  fun c hc => (List.mem_append.mp hc).elim (ha c) (hb c)

theorem AreAscii.cons {c : Char} (hc : c.toNat < 128) (ha : AreAscii a) : AreAscii (c :: a) :=
  List.forall_mem_cons.mpr ⟨hc, ha⟩

theorem byteArray_loop_eq (bytes : ByteArray) (i : Nat) (read : List UInt8) :
    ByteArray.toList.loop bytes i read = read.reverse ++ bytes.data.toList.drop i := by
  fun_induction ByteArray.toList.loop bytes i read with
  | case1 i read h ih =>
    have hi : i < bytes.data.toList.length := by simpa using h
    rw [ih, List.drop_eq_getElem_cons hi]
    simp [ByteArray.get!, h]
  | case2 i read h =>
    rw [List.drop_eq_nil_of_le (by simpa using Nat.le_of_not_lt h), List.append_nil]

/-- The bytes of a plain text are the codes of its characters. -/
theorem utf8_of_areAscii (ha : AreAscii a) :
    (String.ofList a).toUTF8.toList = a.map Char.toUInt8 := by
  have hbytes : (String.ofList a).toUTF8.toList = a.flatMap String.utf8EncodeChar := by
    rw [String.toUTF8_eq_toByteArray, ByteArray.toList, byteArray_loop_eq]
    exact List.toList_data_toByteArray
  rw [hbytes]
  clear hbytes
  induction a with
  | nil => rfl
  | cons c a ih =>
    have hrest := List.forall_mem_cons.mp ha
    have hone : c.utf8Size = 1 := by
      have hcode : c.val.toNat < 128 := hrest.1
      rw [Char.utf8Size_eq_one_iff, UInt32.le_iff_toNat_le]
      exact Nat.le_of_lt_succ hcode
    rw [List.flatMap_cons, String.utf8EncodeChar_eq_singleton hone, List.map_cons, ih hrest.2]
    rfl

theorem toNat_toUInt8 {c : Char} (h : c.toNat < 128) : c.toUInt8.toNat = c.toNat := by
  have hcode : c.toUInt8.toNat = c.toNat % 256 := UInt32.toNat_toUInt8 c.val
  omega

/-- Unsigned bytes, the first that differs decides, and a text that ends before it comes first. -/
def BytesBefore (a b : List UInt8) : Prop := List.Lex (fun x y => x.toNat < y.toNat) a b

theorem bytesBefore_iff (ha : AreAscii a) (hb : AreAscii b) :
    BytesBefore (String.ofList a).toUTF8.toList (String.ofList b).toUTF8.toList ↔ Before a b := by
  rw [utf8_of_areAscii ha, utf8_of_areAscii hb]
  unfold BytesBefore Before
  induction a generalizing b with
  | nil => cases b <;> simp
  | cons c a ih =>
    have hrest := List.forall_mem_cons.mp ha
    cases b with
    | nil => simp
    | cons d b =>
      have hother := List.forall_mem_cons.mp hb
      have hsame : c.toUInt8 = d.toUInt8 ↔ c = d := by
        rw [← UInt8.toNat_inj, toNat_toUInt8 hrest.1, toNat_toUInt8 hother.1, Char.toNat_inj]
      rw [List.map_cons, List.map_cons, List.cons_lex_cons_iff, List.cons_lex_cons_iff,
        ih hrest.2 hother.2, toNat_toUInt8 hrest.1, toNat_toUInt8 hother.1, hsame]

end Text
end TableView
