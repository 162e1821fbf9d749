import Mathlib.Algebra.Order.Ring.Nat
import Remedy.Number.Binary64

/-!
# The range of double precision

A whole number has a double-precision number next to it unless its size comes too near to the power
of two behind the largest one: from half a unit of the last place below that power on, it is the
power that is nearest, or as near and even.
-/

set_option autoImplicit false

namespace Remedy.Number.Binary64

/-- The least size of a whole number that is beyond the range of double precision. -/
def rangeEnd : Nat := (2 ^ 54 - 1) * 2 ^ 970

theorem thirty_lt_rangeEnd : 30 < rangeEnd := by
  have positive : 0 < 2 ^ 970 := pow_pos (by decide) 970
  unfold rangeEnd
  generalize 2 ^ 970 = unit at positive ⊢
  omega

def carriedExponent (significand : Nat) (exponent : Int) : Int :=
  if significand = 2 ^ 53 then exponent + 1 else exponent

theorem carry_cases (negative : Bool) (significand : Nat) (exponent : Int) :
    (carry negative significand exponent = .infinite negative ∧
        maxExponent < carriedExponent significand exponent) ∨
      ∃ s e, carry negative significand exponent = .finite negative s e ∧
        carriedExponent significand exponent ≤ maxExponent := by
  have width : Nat.pow 2 53 = 2 ^ 53 := rfl
  simp only [carry, carriedExponent, width]
  by_cases full : significand = 2 ^ 53
  · rw [if_pos full, if_pos full]
    by_cases beyond : maxExponent < exponent + 1
    · exact Or.inl ⟨if_pos beyond, beyond⟩
    · exact Or.inr ⟨_, _, if_neg beyond, by omega⟩
  · rw [if_neg full, if_neg full]
    by_cases beyond : maxExponent < exponent
    · exact Or.inl ⟨if_pos beyond, beyond⟩
    · exact Or.inr ⟨_, _, if_neg beyond, by omega⟩

/-- The significand of a whole number at the exponent of its full width. -/
def wholeSignificand (n : Nat) : Nat :=
  divideNearest (scaledDown n 1 (exponentOf n 1)).1 (scaledDown n 1 (exponentOf n 1)).2

theorem ofInt?_eq_none_iff_carried {n : Int} (nonzero : n ≠ 0) :
    ofInt? n = none ↔
      maxExponent < carriedExponent (wholeSignificand n.natAbs) (exponentOf n.natAbs 1) := by
  have ratio : ofRatio (decide (n < 0)) n.natAbs 1 =
      carry (decide (n < 0)) (wholeSignificand n.natAbs) (exponentOf n.natAbs 1) := by
    rw [ofRatio, if_neg (by omega)]
    rfl
  rw [ofInt?, ratio]
  obtain ⟨infinite, beyond⟩ | ⟨s, e, finite, within⟩ := carry_cases (decide (n < 0))
    (wholeSignificand n.natAbs) (exponentOf n.natAbs 1)
  · rw [infinite]
    exact iff_of_true rfl beyond
  · rw [finite]
    exact iff_of_false nofun (by omega)

theorem scaledDown_whole (n k : Nat) : scaledDown n 1 (k : Int) = (n, 2 ^ k) := by
  rw [scaledDown, if_pos (Int.natCast_nonneg k), Int.toNat_natCast, Nat.one_mul]
  rfl

theorem exponentOf_le (n : Nat) :
    exponentOf n 1 ≤ max ((n.log2 : Int) - 53) minExponent + 1 := by
  simp only [exponentOf, show Nat.log2 1 = 0 from rfl]
  split <;> omega

/-- A whole number that has at least full width keeps the digits of full width. -/
theorem exponentOf_wide {n : Nat} (wide : 53 ≤ n.log2) :
    exponentOf n 1 = ((n.log2 - 52 : Nat) : Int) := by
  have positive : n ≠ 0 := by
    rintro rfl
    cases wide
  have guess : max ((n.log2 : Int) - (Nat.log2 1 : Nat) - 53) minExponent =
      ((n.log2 - 53 : Nat) : Int) := by
    rw [minExponent, show Nat.log2 1 = 0 from rfl]
    omega
  have width : Nat.pow 2 53 ≤ n / 2 ^ (n.log2 - 53) := by
    have whole : Nat.pow 2 53 * 2 ^ (n.log2 - 53) = 2 ^ n.log2 := by
      rw [show Nat.pow 2 53 = 2 ^ 53 from rfl, ← Nat.pow_add]
      congr 1
      omega
    rw [Nat.le_div_iff_mul_le (Nat.two_pow_pos _), whole]
    exact Nat.log2_self_le positive
  simp only [exponentOf, guess, scaledDown_whole, if_pos width]
  omega

/-- Just below a power of two it is the power that a number is rounded to, from half a unit on: the
significand below it is odd. -/
theorem divideNearest_eq_top_iff {n unit : Nat} (positive : 0 < unit) (below : n < 2 ^ 54 * unit) :
    divideNearest n (2 * unit) = 2 ^ 53 ↔ (2 ^ 54 - 1) * unit ≤ n := by
  have parts : 2 * unit * (n / (2 * unit)) + n % (2 * unit) = n := Nat.div_add_mod n (2 * unit)
  have rest : n % (2 * unit) < 2 * unit := Nat.mod_lt n (by omega)
  have floor : n / (2 * unit) < 2 ^ 53 := by
    rw [Nat.div_lt_iff_lt_mul (by omega)]
    omega
  rw [Nat.sub_mul, Nat.one_mul]
  unfold divideNearest
  generalize n / (2 * unit) = whole at parts floor
  generalize n % (2 * unit) = left at parts rest
  have within : 2 * unit * whole + 2 * unit ≤ 2 * unit * 2 ^ 53 :=
    Nat.mul_le_mul_left (2 * unit) floor
  by_cases top : whole + 1 = 2 ^ 53
  · have full : 2 * unit * whole + 2 * unit = 2 * unit * 2 ^ 53 :=
      congrArg (2 * unit * ·) top
    simp only
    split_ifs <;> omega
  · have short : 2 * unit * (whole + 1) + 2 * unit ≤ 2 * unit * 2 ^ 53 :=
      Nat.mul_le_mul_left (2 * unit) (show whole + 2 ≤ 2 ^ 53 by omega)
    rw [Nat.mul_add, Nat.mul_one] at short
    simp only
    split_ifs <;> omega

/-- A whole number is beyond the range of double precision from the end of the range on. -/
theorem ofInt?_eq_none_iff (n : Int) : ofInt? n = none ↔ rangeEnd ≤ n.natAbs := by
  have units (k : Nat) : 2 ^ (k + 970) = 2 ^ k * 2 ^ 970 := pow_add 2 k 970
  have positive : 0 < 2 ^ 970 := pow_pos (by decide) 970
  rw [rangeEnd]
  generalize 2 ^ 970 = half at units positive ⊢
  by_cases zero : n = 0
  · subst zero
    exact iff_of_false nofun (by omega)
  have nonzero : n.natAbs ≠ 0 := by omega
  rw [ofInt?_eq_none_iff_carried zero]
  generalize n.natAbs = size at nonzero
  have least : 2 ^ size.log2 ≤ size := Nat.log2_self_le nonzero
  have most : size < 2 ^ (size.log2 + 1) := Nat.lt_log2_self
  have power {a b : Nat} (le : a ≤ b) : 2 ^ a ≤ 2 ^ b := Nat.pow_le_pow_right (by decide) le
  rcases Nat.lt_trichotomy size.log2 1023 with short | edge | long
  · have narrow := exponentOf_le size
    have below := power (show size.log2 + 1 ≤ 53 + 970 by omega)
    rw [units 53] at below
    refine iff_of_false ?_ (by omega)
    rw [carriedExponent, maxExponent]
    rw [minExponent] at narrow
    split <;> omega
  · have exponent := exponentOf_wide (n := size) (by omega)
    rw [show size.log2 - 52 = 1 + 970 by omega] at exponent
    rw [show size.log2 + 1 = 54 + 970 by omega, units 54] at most
    have significand : wholeSignificand size = divideNearest size (2 * half) := by
      rw [wholeSignificand, exponent, scaledDown_whole, units 1, pow_one]
    rw [carriedExponent, maxExponent, significand, exponent,
      ← divideNearest_eq_top_iff positive most]
    split <;> omega
  · have exponent := exponentOf_wide (n := size) (by omega)
    have beyond := power (show 54 + 970 ≤ size.log2 by omega)
    rw [units 54] at beyond
    refine iff_of_true ?_ (by omega)
    rw [carriedExponent, maxExponent, exponent]
    split <;> omega

end Remedy.Number.Binary64
