import Mathlib.Algebra.Order.Field.Power
import Mathlib.Data.Rat.Cast.Order
import Mathlib.Tactic.Ring
import Triage.Decimal.Binary64

/-!
# The value of a number

A finite number is a fraction, and `Binary64.value?` says which one. The comparisons of numbers,
which bring both sides to one power of two and compare whole numbers, compare these values; and a
number that lies between two finite ones has a value itself, so it is neither an infinity nor no
number.
-/

namespace Triage.Binary64

/-- The value of a sign, a mantissa and an exponent. -/
def fraction (negative : Bool) (mantissa : Nat) (exponent : Int) : ℚ :=
  (if negative then -(mantissa : ℚ) else mantissa) * 2 ^ exponent

/-- The value of a finite number. -/
def value? : Binary64 → Option ℚ
  | .finite negative mantissa exponent => some (fraction negative mantissa exponent)
  | _ => none

/-- A multiple of a smaller power of two has the same value. -/
theorem multiple_mul (negative : Bool) (mantissa : Nat) {exponent e : Int} (h : e ≤ exponent) :
    (multiple negative mantissa exponent e : ℚ) * 2 ^ e = fraction negative mantissa exponent := by
  have hpower : ((2 ^ (exponent - e).toNat : ℕ) : ℚ) * 2 ^ e = 2 ^ exponent := by
    have hnat : ((2 ^ (exponent - e).toNat : ℕ) : ℚ) = 2 ^ (exponent - e) := by
      rw [Nat.cast_pow, Nat.cast_ofNat, ← zpow_natCast, Int.toNat_of_nonneg (by omega)]
    rw [hnat, ← zpow_add₀ (by norm_num), Int.sub_add_cancel]
  have hsize : ((mantissa * Nat.pow 2 (exponent - e).toNat : ℕ) : ℚ) * 2 ^ e =
      mantissa * 2 ^ exponent := by
    rw [Nat.cast_mul, mul_assoc, Nat.pow_eq, hpower]
  cases negative with
  | true => simp only [multiple, fraction, if_true, Int.cast_neg, Int.cast_natCast, neg_mul, hsize]
  | false => simp only [multiple, fraction, Bool.false_eq_true, if_false, Int.cast_natCast, hsize]

theorem multiple_le_iff {s s' : Bool} {m m' : Nat} {e e' : Int} :
    multiple s m e (min e e') ≤ multiple s' m' e' (min e e') ↔
      fraction s m e ≤ fraction s' m' e' := by
  rw [← multiple_mul s m (min_le_left e e'), ← multiple_mul s' m' (min_le_right e e'),
    mul_le_mul_iff_left₀ (zpow_pos (by norm_num) _), Int.cast_le]

/-- **Finite numbers are compared by their values.** -/
theorem le_finite_iff {s s' : Bool} {m m' : Nat} {e e' : Int} :
    le (.finite s m e) (.finite s' m' e') = true ↔ fraction s m e ≤ fraction s' m' e' := by
  rw [← multiple_le_iff, le_iff_lt_or_eq]
  simp [le, lt, eqv]

/-- **A number between two finite ones has a value between theirs.** -/
theorem exists_value_of_le {low high x : Binary64} {a b : ℚ} (ha : low.value? = some a)
    (hb : high.value? = some b) (hlow : low.le x = true) (hhigh : x.le high = true) :
    ∃ q, x.value? = some q ∧ a ≤ q ∧ q ≤ b := by
  cases low with
  | nan => cases ha
  | infinite s => cases ha
  | finite s m e =>
      cases high with
      | nan => cases hb
      | infinite s => cases hb
      | finite s' m' e' =>
          obtain rfl := Option.some.inj ha
          obtain rfl := Option.some.inj hb
          cases x with
          | finite t k d => exact ⟨_, rfl, le_finite_iff.mp hlow, le_finite_iff.mp hhigh⟩
          | nan => simp [le, lt, eqv] at hlow
          | infinite negative =>
              -- an infinity lies beyond one of the two ends
              cases negative with
              | true => simp [le, lt, eqv] at hlow
              | false => simp [le, lt, eqv] at hhigh

theorem value?_zero : zero.value? = some 0 := by simp [value?, zero, fraction]

theorem value?_one : one.value? = some 1 := by
  have h : one = .finite false (2 ^ 52) (-52) := by decide
  rw [h, value?, fraction]
  norm_num

end Triage.Binary64
