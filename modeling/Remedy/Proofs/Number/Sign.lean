import Mathlib.Algebra.Order.Ring.Int
import Remedy.Number.Quantity

/-!
# Positive quantities

Which quantities are greater than zero can be told from their parts. A quantity that is not less
than or equal to zero is one of these, or it is none that can be compared at all.
-/

set_option autoImplicit false

namespace Remedy.Number

namespace Binary64

def IsPositive : Binary64 → Prop
  | .nan => False
  | .infinite negative => negative = false
  | .finite negative significand _ => negative = false ∧ 0 < significand

instance : DecidablePred IsPositive
  | .nan => inferInstanceAs (Decidable False)
  | .infinite _ => inferInstanceAs (Decidable (_ = _))
  | .finite .. => inferInstanceAs (Decidable (_ ∧ _))

theorem signed_nonpos_iff {negative : Bool} {n : Nat} :
    signed negative n ≤ 0 ↔ ¬ (negative = false ∧ 0 < n) := by
  cases negative <;> simp [signed]

theorem align_zero (s e : Int) :
    ∃ unit : Int, 0 < unit ∧ align s e (signed false 0) 0 = (s * unit, 0) := by
  unfold align
  split
  · exact ⟨1, Int.one_pos, by simp [signed]⟩
  · exact ⟨_, Int.natCast_pos.mpr (Nat.two_pow_pos (e - 0).toNat), by simp [signed]⟩

theorem lt_or_same_zero_iff (x : Binary64) :
    (x.lt (exactInt 0) || x.same (exactInt 0)) = true ↔ ¬ x.IsPositive ∧ x ≠ .nan := by
  cases x with
  | nan => simp [lt, same]
  | infinite negative => cases negative <;> simp [lt, same, exactInt, IsPositive]
  | finite negative significand exponent =>
    obtain ⟨unit, positive, scaled⟩ := align_zero (signed negative significand) exponent
    have sign : (signed negative significand * unit < 0 ∨ signed negative significand * unit = 0) ↔
        signed negative significand ≤ 0 := by
      rw [← le_iff_lt_or_eq]
      exact ⟨fun below => nonpos_of_mul_nonpos_left below positive,
        fun below => mul_nonpos_of_nonpos_of_nonneg below positive.le⟩
    have compared : (((Binary64.finite negative significand exponent).lt (exactInt 0) ||
        (Binary64.finite negative significand exponent).same (exactInt 0)) = true) ↔
          (signed negative significand * unit < 0 ∨ signed negative significand * unit = 0) := by
      have zero : exactInt 0 = .finite false 0 0 := rfl
      simp only [zero, lt, same, scaled, Bool.or_eq_true, decide_eq_true_eq]
    rw [compared, sign, signed_nonpos_iff, IsPositive]
    simp

end Binary64

namespace Quantity

def IsPositive : Quantity → Prop
  | .whole n => 0 < n
  | .real x => x.IsPositive

instance : DecidablePred IsPositive
  | .whole _ => inferInstanceAs (Decidable (_ < _))
  | .real x => inferInstanceAs (Decidable x.IsPositive)

/-- Of the quantities that are not positive only NaN is not less than or equal to zero. -/
theorem le_zero_iff (q : Quantity) :
    q.le (.whole 0) = true ↔ ¬ q.IsPositive ∧ q ≠ .real .nan := by
  cases q with
  | whole n => simp [le, lt, same, IsPositive, le_iff_lt_or_eq]
  | real x => simpa [le, lt, same, exact, IsPositive] using x.lt_or_same_zero_iff

end Quantity

end Remedy.Number
