import Mathlib

namespace DigitalSolutions
namespace Foundation

/-!
# Integers among the doubles, and rounding half up

A double has 53 binary digits.  An operation on doubles gives the double
nearest to the exact result, which for a result below `2 ^ 53` is the result
itself.
-/

inductive JsNumber
  | integer (value : Int)
  /-- A fraction, an infinity, or no number at all. -/
  | other
  deriving DecidableEq

/-- How far apart the doubles of a magnitude are, for an integer. -/
def spacing (magnitude : Nat) : Nat := 2 ^ (magnitude.log2 - 52)

/-- The double nearest to a magnitude below the largest double, the even one of
two that are equally near. -/
def nearestMagnitude (magnitude : Nat) : Nat :=
  let lower := magnitude / spacing magnitude
  let remainder := magnitude % spacing magnitude
  let upwards := spacing magnitude < 2 * remainder ∨ spacing magnitude = 2 * remainder ∧ lower % 2 = 1
  (if upwards then lower + 1 else lower) * spacing magnitude

/-- The double that an integer is rounded to. -/
def toDouble (value : Int) : Int := value.sign * nearestMagnitude value.natAbs

/-- `Number.isSafeInteger`, of an integer. -/
def IsSafe (value : Int) : Prop := value.natAbs < 2 ^ 53

instance (value : Int) : Decidable (IsSafe value) := inferInstanceAs (Decidable (_ < _))

theorem nearestMagnitude_of_lt {magnitude : Nat} (small : magnitude < 2 ^ 53) :
    nearestMagnitude magnitude = magnitude := by
  have single : spacing magnitude = 1 := by
    by_cases zero : magnitude = 0
    · rw [zero]
      rfl
    · have digits : magnitude.log2 < 53 := (Nat.log2_lt zero).mpr small
      have none : magnitude.log2 - 52 = 0 := by omega
      rw [spacing, none, Nat.pow_zero]
  simp only [nearestMagnitude, single, Nat.mod_one, Nat.div_one, Nat.mul_one]
  apply if_neg
  omega

theorem le_nearestMagnitude {magnitude : Nat} (large : 2 ^ 53 ≤ magnitude) :
    2 ^ 53 ≤ nearestMagnitude magnitude := by
  have positive : magnitude ≠ 0 := by omega
  have digits : 53 ≤ magnitude.log2 := (Nat.le_log2 positive).mpr large
  have leading : 2 ^ magnitude.log2 ≤ magnitude := Nat.log2_self_le positive
  have power : 2 ^ 52 * spacing magnitude = 2 ^ magnitude.log2 := by
    rw [spacing, ← Nat.pow_add]
    congr 1
    omega
  have many : 2 ^ 52 ≤ magnitude / spacing magnitude := by
    have apart : 0 < spacing magnitude := Nat.two_pow_pos _
    rw [Nat.le_div_iff_mul_le apart, power]
    exact leading
  have enough : 2 ^ 53 ≤ magnitude / spacing magnitude * spacing magnitude := by
    calc
      2 ^ 53 ≤ 2 ^ magnitude.log2 := Nat.pow_le_pow_right (by decide) digits
      _ = 2 ^ 52 * spacing magnitude := power.symm
      _ ≤ magnitude / spacing magnitude * spacing magnitude := Nat.mul_le_mul_right _ many
  simp only [nearestMagnitude]
  split
  · exact Nat.le_trans enough (Nat.mul_le_mul_right _ (Nat.le_succ _))
  · exact enough

theorem toDouble_of_safe {value : Int} (safe : IsSafe value) : toDouble value = value := by
  rw [toDouble, nearestMagnitude_of_lt safe, Int.sign_mul_natAbs]

/-- No rounding makes a safe integer of one that is not. -/
theorem isSafe_toDouble_iff {value : Int} : IsSafe (toDouble value) ↔ IsSafe value := by
  constructor
  · intro safe
    by_contra unsafeValue
    have large : 2 ^ 53 ≤ value.natAbs := Nat.le_of_not_lt unsafeValue
    have nonzero : value ≠ 0 := by
      rintro rfl
      exact absurd large (by decide)
    have magnitude : (toDouble value).natAbs = nearestMagnitude value.natAbs := by
      rw [toDouble, Int.natAbs_mul, Int.natAbs_sign_of_ne_zero nonzero, Nat.one_mul, Int.natAbs_natCast]
    rw [IsSafe, magnitude] at safe
    exact absurd (le_nearestMagnitude large) (Nat.not_le_of_lt safe)
  · intro safe
    rw [toDouble_of_safe safe]
    exact safe

/-! ## Rounding half up -/

/-- Half of the denominator, rounded down, is enough to round half up, for an odd
denominator as well. -/
theorem halfUp_eq_round {numerator denominator : Int} (nonnegative : 0 ≤ numerator) (positive : 0 < denominator) :
    (numerator + denominator.tdiv 2).tdiv denominator = round ((numerator : ℚ) / denominator) := by
  have half : denominator.tdiv 2 = denominator / 2 := Int.tdiv_eq_ediv_of_nonneg positive.le
  have whole : 0 ≤ numerator + denominator / 2 := by omega
  rw [half, Int.tdiv_eq_ediv_of_nonneg whole, round_eq]
  symm
  rw [Int.floor_eq_iff]
  have divided := Int.mul_ediv_add_emod (numerator + denominator / 2) denominator
  have below := Int.emod_lt_of_pos (numerator + denominator / 2) positive
  have above := Int.emod_nonneg (numerator + denominator / 2) positive.ne'
  generalize (numerator + denominator / 2) / denominator = quotient at *
  have lower : 2 * (denominator * quotient) ≤ 2 * numerator + denominator := by omega
  have upper : 2 * numerator + denominator < 2 * (denominator * quotient + denominator) := by omega
  have positiveRational : (0 : ℚ) < denominator := by exact_mod_cast positive
  have lowerRational : 2 * ((denominator : ℚ) * quotient) ≤ 2 * numerator + denominator := by exact_mod_cast lower
  have upperRational : 2 * (numerator : ℚ) + denominator < 2 * (denominator * quotient + denominator) := by
    exact_mod_cast upper
  have sum : (numerator : ℚ) / denominator + 1 / 2 = (2 * numerator + denominator) / (2 * denominator) := by
    field_simp
  rw [sum]
  constructor
  · rw [le_div_iff₀ (by linarith)]
    linarith
  · rw [div_lt_iff₀ (by linarith)]
    linarith

theorem round_mono {left right : ℚ} (le : left ≤ right) : round left ≤ round right := by
  rw [round_eq, round_eq]
  apply Int.floor_le_floor
  linarith

end Foundation
end DigitalSolutions
