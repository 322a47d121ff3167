import Mathlib.Algebra.Order.Field.Basic
import Mathlib.Algebra.Order.Field.Power
import Mathlib.Tactic.LinearCombination
import Mathlib.Tactic.Positivity
import SolidityAudit.Number.Binary64

namespace SolidityAudit.Binary64

/-- The number that a finite double stands for. -/
def value? : Binary64 → Option ℚ
  | .finite negative mantissa exponent =>
      some ((if negative then -1 else 1) * (mantissa * 2 ^ exponent))
  | _ => none

/-- A finite number with mantissa and exponent within the bounds of doubles. -/
def IsRegular : Binary64 → Prop
  | .finite _ mantissa exponent => mantissa < 2 ^ 53 ∧ leastExponent ≤ exponent
  | _ => False

section Fractions

/-- The fraction is the mantissa times a power of two. -/
def IsScaled (fraction : Nat × Nat) (mantissa : Nat) (exponent : Int) : Prop :=
  0 < fraction.2 ∧ (fraction.1 : ℚ) = mantissa * 2 ^ exponent * fraction.2

variable {mantissa : Nat} {exponent : Int}

/-- Dividing by a power of two lowers the exponent. -/
theorem IsScaled.scaledFraction {fraction : Nat × Nat}
    (scaled : IsScaled fraction mantissa exponent) (divisor : Int) :
    IsScaled (Binary64.scaledFraction fraction.1 fraction.2 divisor) mantissa
      (exponent - divisor) := by
  obtain ⟨positive, same⟩ := scaled
  have powers : (2 : ℚ) ^ exponent = 2 ^ (exponent - divisor) * 2 ^ divisor := by
    rw [← zpow_add₀ (by norm_num), sub_add_cancel]
  unfold Binary64.scaledFraction
  split
  · next negative =>
    refine ⟨positive, ?_⟩
    have power : ((2 ^ (-divisor).toNat : Nat) : ℚ) = 2 ^ (-divisor) := by
      rw [Nat.cast_pow, ← zpow_natCast, Int.toNat_of_nonneg (by omega)]
      rfl
    have inverse : (2 : ℚ) ^ divisor * 2 ^ (-divisor) = 1 := by
      rw [← zpow_add₀ (by norm_num), add_neg_cancel, zpow_zero]
    simp only [Nat.cast_mul, Nat.pow_eq, power, same, powers]
    linear_combination (mantissa * 2 ^ (exponent - divisor) * fraction.2 : ℚ) * inverse
  · next whole =>
    refine ⟨Nat.mul_pos positive (Nat.two_pow_pos _), ?_⟩
    have power : ((2 ^ divisor.toNat : Nat) : ℚ) = 2 ^ divisor := by
      rw [Nat.cast_pow, ← zpow_natCast, Int.toNat_of_nonneg (by omega)]
      rfl
    simp only [Nat.cast_mul, Nat.pow_eq, power, same, powers]
    rw [mul_comm (fraction.2 : ℚ), ← mul_assoc, ← mul_assoc]

/-- A fraction that is a whole number has this number for its quotient, and nothing is left. -/
theorem IsScaled.whole {fraction : Nat × Nat} {power : Nat}
    (scaled : IsScaled fraction mantissa power) :
    fraction.1 = mantissa * 2 ^ power * fraction.2 := by
  have same := scaled.2
  rw [zpow_natCast] at same
  exact_mod_cast same

/-- The quotient of a scaled fraction is exact. -/
theorem IsScaled.quotient {fraction : Nat × Nat} {power : Nat}
    (scaled : IsScaled fraction mantissa power) :
    fraction.1 / fraction.2 = mantissa * 2 ^ power := by
  rw [scaled.whole, Nat.mul_div_cancel _ scaled.1]

/-- So there is nothing to round in it. -/
theorem IsScaled.roundedQuotient {fraction : Nat × Nat} {power : Nat}
    (scaled : IsScaled fraction mantissa power) :
    Binary64.roundedQuotient fraction.1 fraction.2 = mantissa * 2 ^ power := by
  have positive := scaled.1
  have exactly : fraction.1 % fraction.2 = 0 := by rw [scaled.whole, Nat.mul_mod_left]
  simp only [Binary64.roundedQuotient, scaled.quotient, exactly, Nat.mul_zero]
  rw [if_neg]
  simp only [gt_iff_lt, Nat.not_lt_zero, decide_false, Bool.false_or, Bool.and_eq_true, beq_iff_eq,
    not_and]
  omega

/-- A power of two adds to the number of binary digits. -/
theorem log2_mul_pow (nonzero : mantissa ≠ 0) (power : Nat) :
    (mantissa * 2 ^ power).log2 = mantissa.log2 + power := by
  rw [Nat.log2_eq_iff (Nat.mul_ne_zero nonzero (Nat.two_pow_pos power).ne')]
  constructor
  · rw [Nat.pow_add]
    exact Nat.mul_le_mul_right _ (Nat.log2_self_le nonzero)
  · rw [Nat.add_right_comm, Nat.pow_add]
    exact Nat.mul_lt_mul_of_pos_right Nat.lt_log2_self (Nat.two_pow_pos power)

end Fractions

section Products

variable {mantissa : Nat} {exponent : Int}

/-- The product of a mantissa and a power of two, before it is rounded. -/
def product (mantissa : Nat) (exponent : Int) : Nat × Nat := scaledFraction mantissa 1 (-exponent)

/-- A product with a power of two is a scaled fraction. -/
theorem isScaled_product (mantissa : Nat) (exponent : Int) :
    IsScaled (product mantissa exponent) mantissa exponent := by
  have whole : IsScaled (mantissa, 1) mantissa 0 := ⟨Nat.one_pos, by simp⟩
  have scaled := whole.scaledFraction (-exponent)
  rwa [zero_sub, neg_neg] at scaled

/-- At a lower exponent the product is a whole number. -/
theorem isScaled_lower {target : Int} (lower : target ≤ exponent) :
    IsScaled (scaledFraction (product mantissa exponent).1 (product mantissa exponent).2 target)
      mantissa ((exponent - target).toNat : Nat) := by
  rw [Int.toNat_of_nonneg (by omega)]
  exact (isScaled_product mantissa exponent).scaledFraction target

/-- The numerator of a product is positive. -/
theorem product_pos (nonzero : mantissa ≠ 0) : 0 < (product mantissa exponent).1 := by
  have positive : 0 < mantissa := Nat.pos_of_ne_zero nonzero
  unfold product scaledFraction
  split
  · exact Nat.mul_pos positive (Nat.two_pow_pos _)
  · exact positive

/-- The binary digits of a product say its size. -/
theorem log2_product (nonzero : mantissa ≠ 0) :
    ((product mantissa exponent).1.log2 : Int) - (product mantissa exponent).2.log2 =
      mantissa.log2 + exponent := by
  have one : Nat.log2 1 = 0 := by decide
  unfold product scaledFraction
  split
  · simp only [Nat.pow_eq, log2_mul_pow nonzero, one]
    omega
  · simp only [Nat.pow_eq, Nat.one_mul, Nat.log2_two_pow]
    omega

/-- A power of two is reached by counting binary digits. -/
theorem pow_le_iff_log2 (nonzero : mantissa ≠ 0) (power bits : Nat) :
    Nat.pow 2 bits ≤ mantissa * 2 ^ power ↔ bits ≤ mantissa.log2 + power := by
  rw [← log2_mul_pow nonzero, Nat.le_log2 (Nat.mul_ne_zero nonzero (Nat.two_pow_pos power).ne'),
    Nat.pow_eq]

/-- The exponent leaves a mantissa of 53 bits, or is smallest. -/
theorem fittingExponent_product (nonzero : mantissa ≠ 0) (small : mantissa < 2 ^ 53)
    (bounded : leastExponent ≤ exponent) :
    fittingExponent (product mantissa exponent).1 (product mantissa exponent).2 =
      max (mantissa.log2 + exponent - 52) leastExponent := by
  have short : mantissa.log2 < 53 := (Nat.log2_lt nonzero).mpr small
  have scaled := @isScaled_lower mantissa exponent
    (max (mantissa.log2 + exponent - 53) leastExponent) (by omega)
  unfold fittingExponent
  simp only [log2_product nonzero, scaled.quotient, ge_iff_le, pow_le_iff_log2 nonzero]
  split <;> omega

/-- A product of at most 53 bits and a power of two is not rounded. -/
theorem ofFraction_product (negative : Bool) (nonzero : mantissa ≠ 0) (small : mantissa < 2 ^ 53)
    (bounded : leastExponent ≤ exponent) :
    (ofFraction negative (product mantissa exponent).1 (product mantissa exponent).2).value? =
      if (mantissa.log2 : Int) + exponent < 1024 then
        some ((if negative then -1 else 1 : ℚ) * (mantissa * 2 ^ exponent))
      else none := by
  have short : mantissa.log2 < 53 := (Nat.log2_lt nonzero).mpr small
  have least : leastExponent = -1074 := rfl
  have greatest : greatestExponent = 971 := rfl
  have lower : max (mantissa.log2 + exponent - 52) leastExponent ≤ exponent := by omega
  have scaled := @isScaled_lower mantissa exponent _ lower
  have fits : ¬ Nat.pow 2 53 ≤ mantissa *
      2 ^ (exponent - max (mantissa.log2 + exponent - 52) leastExponent).toNat := by
    rw [pow_le_iff_log2 nonzero]
    omega
  have unrounded : ((mantissa *
      2 ^ (exponent - max (mantissa.log2 + exponent - 52) leastExponent).toNat : Nat) : ℚ) *
        2 ^ max (mantissa.log2 + exponent - 52) leastExponent = mantissa * 2 ^ exponent := by
    rw [Nat.cast_mul, Nat.cast_pow, mul_assoc, Nat.cast_ofNat, ← zpow_natCast,
      ← zpow_add₀ (by norm_num), Int.toNat_of_nonneg (by omega), sub_add_cancel]
  unfold ofFraction
  simp only [beq_iff_eq, (product_pos nonzero).ne', if_false,
    fittingExponent_product nonzero small bounded, scaled.roundedQuotient,
    (Nat.not_le.mp fits).ne]
  by_cases within : (mantissa.log2 : Int) + exponent < 1024
  · rw [if_neg (by omega), if_pos within, value?, unrounded]
  · rw [if_pos (by omega), if_neg within]
    rfl

/-- The bits of a product tell whether it is below a power of two. -/
theorem product_lt_iff (nonzero : mantissa ≠ 0) (bits : Nat) :
    (mantissa * 2 ^ exponent : ℚ) < 2 ^ bits ↔ (mantissa.log2 : Int) + exponent < bits := by
  have lower : (2 ^ (mantissa.log2 : Int) : ℚ) ≤ mantissa := by
    exact_mod_cast Nat.log2_self_le nonzero
  have upper : (mantissa : ℚ) < 2 ^ (mantissa.log2 + 1 : Int) := by
    exact_mod_cast @Nat.lt_log2_self mantissa
  have power : (0 : ℚ) < 2 ^ exponent := by positivity
  rw [← zpow_natCast]
  constructor
  · intro less
    have between : (2 : ℚ) ^ ((mantissa.log2 : Int) + exponent) < 2 ^ (bits : Int) := by
      rw [zpow_add₀ (by norm_num)]
      exact (mul_le_mul_of_nonneg_right lower power.le).trans_lt less
    exact (zpow_lt_zpow_iff_right₀ (by norm_num)).mp between
  · intro less
    have between : (2 : ℚ) ^ ((mantissa.log2 : Int) + 1 + exponent) ≤ 2 ^ (bits : Int) :=
      zpow_le_zpow_right₀ (by norm_num) (by omega)
    rw [zpow_add₀ (by norm_num)] at between
    exact (mul_lt_mul_of_pos_right upper power).trans_le between

end Products

/-- Doubling a number keeps it exact, until it is beyond all doubles. -/
theorem timesPowerOfTwo_value {number : Binary64} (regular : number.IsRegular) {amount : ℚ}
    (value : number.value? = some amount) (power : Nat) :
    (number.timesPowerOfTwo power).value? =
      if |amount| * 2 ^ power < 2 ^ 1024 then some (amount * 2 ^ power) else none := by
  cases number with
  | infinite => cases value
  | notANumber => cases value
  | finite negative mantissa exponent =>
      obtain ⟨small, bounded⟩ := regular
      cases value
      have size : |(if negative then -1 else 1 : ℚ) * (mantissa * 2 ^ exponent)| * 2 ^ power =
          mantissa * 2 ^ (exponent + power) := by
        have sign : |(if negative then -1 else 1 : ℚ)| = 1 := by split <;> simp
        have positive : (0 : ℚ) ≤ mantissa * 2 ^ exponent := by positivity
        rw [abs_mul, sign, one_mul, abs_of_nonneg positive, zpow_add₀ (by norm_num), zpow_natCast,
          mul_assoc]
      rw [size]
      by_cases zero : mantissa = 0
      · subst zero
        simp [timesPowerOfTwo, value?]
      · have bits := @product_lt_iff mantissa (exponent + power) zero 1024
        have greatest : greatestExponent = 971 := rfl
        simp only [timesPowerOfTwo, beq_iff_eq, zero, if_false, bits]
        by_cases large : exponent + power > greatestExponent + 53
        · rw [if_pos large, if_neg (by omega)]
          rfl
        · rw [if_neg large]
          have whole :=
            @ofFraction_product mantissa (exponent + power) negative zero small (by omega)
          rw [product] at whole
          rw [whole]
          simp only [Nat.cast_ofNat]
          split
          · rw [zpow_add₀ (by norm_num), zpow_natCast, mul_assoc, mul_assoc]
          · rfl

end SolidityAudit.Binary64
