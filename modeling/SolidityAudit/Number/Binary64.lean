/-
This file represents double precision numbers exactly and rounds decimals to them.
-/

namespace SolidityAudit

/-- A finite number is a whole mantissa below `2 ^ 53` scaled by a power of two that is at
least `-1074`, and the mantissa is at least `2 ^ 52` unless the exponent is smallest. -/
inductive Binary64 where
  | finite (negative : Bool) (mantissa : Nat) (exponent : Int)
  | infinite (negative : Bool)
  | notANumber
  deriving DecidableEq, Repr, Inhabited

namespace Binary64

def leastExponent : Int := -1074

def greatestExponent : Int := 971

def zero (negative : Bool) : Binary64 := .finite negative 0 leastExponent

/-- The fraction `numerator / denominator` divided by a power of two. -/
def scaledFraction (numerator denominator : Nat) (exponent : Int) : Nat × Nat :=
  if exponent < 0 then (numerator * Nat.pow 2 (-exponent).toNat, denominator)
  else (numerator, denominator * Nat.pow 2 exponent.toNat)

/-- The quotient is rounded to the nearest whole number, and a half goes to the even one. -/
def roundedQuotient (numerator denominator : Nat) : Nat :=
  let quotient := numerator / denominator
  let twice := 2 * (numerator % denominator)
  if twice > denominator || (twice == denominator && quotient % 2 == 1) then quotient + 1
  else quotient

/-- The exponent that leaves a mantissa of 53 bits, or the smallest exponent. -/
def fittingExponent (numerator denominator : Nat) : Int :=
  let estimate := max ((numerator.log2 : Int) - denominator.log2 - 53) leastExponent
  let (scaledNumerator, scaledDenominator) := scaledFraction numerator denominator estimate
  if scaledNumerator / scaledDenominator ≥ Nat.pow 2 53 then estimate + 1 else estimate

/-- The nearest double of a fraction. -/
def ofFraction (negative : Bool) (numerator denominator : Nat) : Binary64 :=
  if numerator == 0 then zero negative
  else
    let exponent := fittingExponent numerator denominator
    let (scaledNumerator, scaledDenominator) := scaledFraction numerator denominator exponent
    let mantissa := roundedQuotient scaledNumerator scaledDenominator
    let (mantissa, exponent) :=
      if mantissa == Nat.pow 2 53 then (Nat.pow 2 52, exponent + 1) else (mantissa, exponent)
    if exponent > greatestExponent then .infinite negative
    else .finite negative mantissa exponent

/-- The nearest double of `digits * 10 ^ exponent`, where `count` digits are written. The
bounds keep the powers of ten small where the result is certain. -/
def ofDecimal (negative : Bool) (digits count : Nat) (exponent : Int) : Binary64 :=
  if digits == 0 || (count : Int) + exponent < -400 then zero negative
  else if (digits.log2 : Int) / 4 + exponent > 400 then .infinite negative
  else if exponent < 0 then ofFraction negative digits (Nat.pow 10 (-exponent).toNat)
  else ofFraction negative (digits * Nat.pow 10 exponent.toNat) 1

def isZero : Binary64 → Bool
  | .finite _ mantissa _ => mantissa == 0
  | _ => false

/-- The whole part, cut toward zero. -/
def truncated (negative : Bool) (mantissa : Nat) (exponent : Int) : Int :=
  let magnitude : Nat :=
    if exponent < 0 then mantissa / Nat.pow 2 (-exponent).toNat
    else mantissa * Nat.pow 2 exponent.toNat
  if negative then -(magnitude : Int) else magnitude

/-- A product with a power of two changes the exponent alone, unless the result is too
large or the mantissa has room to grow. -/
def timesPowerOfTwo (number : Binary64) (power : Nat) : Binary64 :=
  match number with
  | .finite negative mantissa exponent =>
      if mantissa == 0 then number
      else if exponent + power > greatestExponent + 53 then .infinite negative
      else
        let (numerator, denominator) := scaledFraction mantissa 1 (-(exponent + power))
        ofFraction negative numerator denominator
  | other => other

end Binary64

end SolidityAudit
