import Mathlib.Algebra.Order.Floor.Semifield
import Mathlib.Data.List.Induction
import Mathlib.Data.Rat.Floor
import Mathlib.Tactic.NormNum
import Mathlib.Tactic.Positivity
import Mathlib.Tactic.Ring
import TableView.Term.Period

/-! The fraction of a second that a run of digits spells, cut to millionths. -/
namespace TableView.Term

/-- The value of a digit after the point; a digit of another script has none. -/
def fractionDigit (c : Char) : Nat := if c.isDigit then Text.digitValue c else 0

def fractionValue (run : List Char) : Nat := run.foldl (fun n c => n * 10 + fractionDigit c) 0

/-- The part of a second that a run spells after the point. -/
def fraction (run : List Char) : ℚ := (fractionValue run : ℚ) / ((10 ^ run.length : ℕ) : ℚ)

theorem fractionDigit_lt (c : Char) : fractionDigit c < 10 := by
  unfold fractionDigit
  split
  · next h =>
    simp only [Char.isDigit, Bool.and_eq_true, decide_eq_true_eq, ge_iff_le,
      UInt32.le_iff_toNat_le] at h
    have hn : c.toNat = c.val.toNat := rfl
    have h0 : '0'.val.toNat = 48 := rfl
    have h9 : '9'.val.toNat = 57 := rfl
    unfold Text.digitValue
    omega
  · decide

theorem foldl_fractionDigit (run : List Char) (n : Nat) :
    run.foldl (fun n c => n * 10 + fractionDigit c) n =
      n * 10 ^ run.length + fractionValue run := by
  unfold fractionValue
  induction run generalizing n with
  | nil => simp
  | cons c run ih =>
    rw [List.foldl_cons, ih, List.foldl_cons, ih (0 * 10 + fractionDigit c), List.length_cons]
    ring

theorem fractionValue_append (a b : List Char) :
    fractionValue (a ++ b) = fractionValue a * 10 ^ b.length + fractionValue b := by
  rw [fractionValue, List.foldl_append, foldl_fractionDigit]
  rfl

theorem fractionValue_lt (run : List Char) : fractionValue run < 10 ^ run.length := by
  induction run using List.reverseRecOn with
  | nil => decide
  | append_singleton run c ih =>
    have hc := fractionDigit_lt c
    have hone : fractionValue [c] = fractionDigit c := by simp [fractionValue]
    rw [fractionValue_append, hone, List.length_append, List.length_singleton, pow_one, pow_succ]
    omega

theorem fractionValue_zeros (n : Nat) : fractionValue (List.replicate n '0') = 0 := by
  induction n with
  | zero => rfl
  | succ n ih =>
    rw [List.replicate_succ', fractionValue_append, ih]
    rfl

theorem micros_eq (run : List Char) :
    micros run = fractionValue run * 1000000 / 10 ^ run.length := by
  set padded := run ++ List.replicate 6 '0' with hpadded
  have hsplit : fractionValue padded =
      micros run * 10 ^ run.length + fractionValue (padded.drop 6) := by
    have hlength : (padded.drop 6).length = run.length := by simp [hpadded]
    conv_lhs => rw [← List.take_append_drop 6 padded, fractionValue_append, hlength]
    rfl
  have hvalue : fractionValue padded = fractionValue run * 1000000 := by
    rw [hpadded, fractionValue_append, fractionValue_zeros, List.length_replicate]
    norm_num
  have hrest : fractionValue (padded.drop 6) < 10 ^ run.length := by
    have hlt := fractionValue_lt (padded.drop 6)
    simpa [hpadded] using hlt
  have hpos : 0 < 10 ^ run.length := by positivity
  rw [← hvalue, hsplit, Nat.mul_comm, Nat.mul_add_div hpos, Nat.div_eq_of_lt hrest, Nat.add_zero]

theorem micros_eq_floor (run : List Char) : micros run = ⌊fraction run * 1000000⌋₊ := by
  have hcast : fraction run * 1000000 =
      ((fractionValue run * 1000000 : ℕ) : ℚ) / ((10 ^ run.length : ℕ) : ℚ) := by
    rw [fraction, Nat.cast_mul]
    ring
  rw [micros_eq, hcast, Nat.floor_div_natCast, Nat.floor_natCast]

theorem micros_lt (run : List Char) : micros run < 1000000 := by
  have hlt := fractionValue_lt ((run ++ List.replicate 6 '0').take 6)
  have hlength : ((run ++ List.replicate 6 '0').take 6).length = 6 := by simp
  rw [hlength] at hlt
  exact hlt

end TableView.Term
