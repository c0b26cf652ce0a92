/-
This library is about the doubles of a program and what their rounding does to a
quotient.

A double of at least zero is a significand of at most 53 bits with a scale. The four
operations are exact up to one rounding to the nearest double, of two that are equally
near to the even one. Dividing a number by another and multiplying by it again rounds
twice, and cutting off the digits behind the point then gives the number back or the
one before it.

Only quotients below `2 ^ 53` are in question, and none so small that a double has no
room for all its digits: the scale is a natural number without a bound.
-/

import Mathlib.Tactic.Ring

namespace JnTapi.Library

/-! ### Rounding a fraction -/

/-- The number nearest to a fraction, of two that are equally near the even one -/
def roundNearest (numerator denominator : Nat) : Nat :=
  let quotient := numerator / denominator
  let rest := numerator % denominator
  if 2 * rest < denominator ∨ 2 * rest = denominator ∧ quotient % 2 = 0 then quotient
  else quotient + 1

section roundNearest

variable {numerator denominator : Nat}

/-- The number is at most half a unit above the fraction. -/
theorem roundNearest_le : 2 * (roundNearest numerator denominator * denominator) ≤
    2 * numerator + denominator := by
  have whole := Nat.div_add_mod numerator denominator
  rw [Nat.mul_comm] at whole
  rw [roundNearest]
  split_ifs with below
  · omega
  · have next := Nat.add_one_mul (numerator / denominator) denominator
    omega

/-- The number is at most half a unit below the fraction. -/
theorem le_roundNearest (positive : 0 < denominator) : 2 * numerator ≤
    2 * (roundNearest numerator denominator * denominator) + denominator := by
  have whole := Nat.div_add_mod numerator denominator
  have rest := Nat.mod_lt numerator positive
  rw [Nat.mul_comm] at whole
  rw [roundNearest]
  split_ifs with below
  · omega
  · have next := Nat.add_one_mul (numerator / denominator) denominator
    omega

end roundNearest

/-! ### Doubles -/

/-- The value is the significand divided by so many twos. -/
structure Double where
  significand : Nat
  scale : Nat
deriving DecidableEq, Repr

namespace Double

/-- How many twos a fraction takes to become a number of 53 bits -/
def scaleOf (numerator denominator : Nat) : Nat :=
  let guess := 52 + denominator.log2 - numerator.log2
  if numerator * 2 ^ guess < 2 ^ 52 * denominator then guess + 1 else guess

/-- The double nearest to a fraction -/
def nearest (numerator denominator : Nat) : Double :=
  if numerator = 0 then ⟨0, 0⟩
  else
    let scale := scaleOf numerator denominator
    ⟨roundNearest (numerator * 2 ^ scale) denominator, scale⟩

/-- A number of at most 53 bits is a double itself. -/
def ofNat (number : Nat) : Double := ⟨number, 0⟩

/-- `x / y` -/
def div (dividend divisor : Double) : Double :=
  nearest (dividend.significand * 2 ^ divisor.scale) (divisor.significand * 2 ^ dividend.scale)

/-- `x * y` -/
def mul (first second : Double) : Double :=
  nearest (first.significand * second.significand) (2 ^ (first.scale + second.scale))

/-- The whole part, which a conversion to an integer type keeps -/
def trunc (double : Double) : Nat := double.significand / 2 ^ double.scale

/-- The double differs from a fraction by at most one part in `2 ^ 53`. -/
structure Near (double : Double) (numerator denominator : Nat) : Prop where
  notAbove : 2 ^ 53 * (double.significand * denominator) ≤
    (2 ^ 53 + 1) * (numerator * 2 ^ double.scale)
  notBelow : (2 ^ 53 - 1) * (numerator * 2 ^ double.scale) ≤
    2 ^ 53 * (double.significand * denominator)

section nearest

variable {numerator denominator : Nat}

/-- The scaled fraction has its first digit at the 53rd place or above. -/
theorem le_scaled (notZero : numerator ≠ 0) (denominator : Nat) :
    2 ^ 52 * denominator ≤ numerator * 2 ^ scaleOf numerator denominator := by
  have above : 2 ^ numerator.log2 ≤ numerator := Nat.log2_self_le notZero
  have below : denominator < 2 ^ (denominator.log2 + 1) := Nat.lt_log2_self
  have half : 2 ^ 52 * denominator ≤
      numerator * 2 ^ (52 + denominator.log2 - numerator.log2) * 2 := by
    calc 2 ^ 52 * denominator
        ≤ 2 ^ 52 * 2 ^ (denominator.log2 + 1) := Nat.mul_le_mul_left _ below.le
      _ = 2 ^ (52 + denominator.log2) * 2 := by rw [← pow_add, ← pow_succ, Nat.add_assoc]
      _ ≤ 2 ^ (numerator.log2 + (52 + denominator.log2 - numerator.log2)) * 2 :=
        Nat.mul_le_mul_right 2 (Nat.pow_le_pow_right (Nat.zero_lt_two) (by omega))
      _ = 2 ^ numerator.log2 * 2 ^ (52 + denominator.log2 - numerator.log2) * 2 := by
        rw [← pow_add]
      _ ≤ numerator * 2 ^ (52 + denominator.log2 - numerator.log2) * 2 :=
        Nat.mul_le_mul_right 2 (Nat.mul_le_mul_right _ above)
  rw [scaleOf]
  split_ifs with short
  · exact half.trans_eq (by rw [Nat.mul_assoc, ← pow_succ])
  · exact Nat.le_of_not_lt short

/-- Rounding a fraction costs at most one part in `2 ^ 53`. -/
theorem near_nearest (positive : 0 < denominator) :
    (nearest numerator denominator).Near numerator denominator := by
  by_cases zero : numerator = 0
  · subst zero
    exact ⟨by simp [nearest], by simp [nearest]⟩
  · have long := le_scaled zero denominator
    rw [nearest, if_neg zero]
    have above := @roundNearest_le (numerator * 2 ^ scaleOf numerator denominator) denominator
    have below := @le_roundNearest (numerator * 2 ^ scaleOf numerator denominator) denominator
      positive
    exact ⟨by dsimp only; omega, by dsimp only; omega⟩

end nearest

/-! ### Dividing and multiplying again -/

section quotient

variable {number divisor : Nat}

/-- A quotient near to its fraction and a product near to the quotient's multiple: the product is
the number up to two roundings. -/
theorem Near.mul_div {quotient again : Double} (first : quotient.Near number divisor)
    (second : again.Near (quotient.significand * divisor) (2 ^ quotient.scale)) :
    2 ^ 106 * again.significand ≤ (2 ^ 53 + 1) ^ 2 * number * 2 ^ again.scale ∧
      (2 ^ 53 - 1) ^ 2 * number * 2 ^ again.scale ≤ 2 ^ 106 * again.significand := by
  have scalePositive : 0 < 2 ^ quotient.scale := Nat.two_pow_pos _
  constructor
  · refine Nat.le_of_mul_le_mul_right ?_ scalePositive
    calc 2 ^ 106 * again.significand * 2 ^ quotient.scale
        = 2 ^ 53 * (2 ^ 53 * (again.significand * 2 ^ quotient.scale)) := by ring
      _ ≤ 2 ^ 53 * ((2 ^ 53 + 1) * (quotient.significand * divisor * 2 ^ again.scale)) :=
        Nat.mul_le_mul_left _ second.notAbove
      _ = (2 ^ 53 + 1) * 2 ^ again.scale * (2 ^ 53 * (quotient.significand * divisor)) := by ring
      _ ≤ (2 ^ 53 + 1) * 2 ^ again.scale * ((2 ^ 53 + 1) * (number * 2 ^ quotient.scale)) :=
        Nat.mul_le_mul_left _ first.notAbove
      _ = (2 ^ 53 + 1) ^ 2 * number * 2 ^ again.scale * 2 ^ quotient.scale := by ring
  · refine Nat.le_of_mul_le_mul_right ?_ scalePositive
    calc (2 ^ 53 - 1) ^ 2 * number * 2 ^ again.scale * 2 ^ quotient.scale
        = (2 ^ 53 - 1) * 2 ^ again.scale * ((2 ^ 53 - 1) * (number * 2 ^ quotient.scale)) := by
          ring
      _ ≤ (2 ^ 53 - 1) * 2 ^ again.scale * (2 ^ 53 * (quotient.significand * divisor)) :=
        Nat.mul_le_mul_left _ first.notBelow
      _ = 2 ^ 53 * ((2 ^ 53 - 1) * (quotient.significand * divisor * 2 ^ again.scale)) := by ring
      _ ≤ 2 ^ 53 * (2 ^ 53 * (again.significand * 2 ^ quotient.scale)) :=
        Nat.mul_le_mul_left _ second.notBelow
      _ = 2 ^ 106 * again.significand * 2 ^ quotient.scale := by ring

theorem near_div (number : Nat) (positive : 0 < divisor) :
    ((ofNat number).div (ofNat divisor)).Near number divisor := by
  have near := @near_nearest (number * 2 ^ 0) (divisor * 2 ^ 0) (by simpa using positive)
  rw [pow_zero, Nat.mul_one, Nat.mul_one] at near
  rwa [div, ofNat, ofNat, pow_zero, Nat.mul_one, Nat.mul_one]

theorem near_mul (quotient : Double) (divisor : Nat) :
    (quotient.mul (ofNat divisor)).Near (quotient.significand * divisor) (2 ^ quotient.scale) :=
  near_nearest (Nat.two_pow_pos _)

/-- Dividing a number, multiplying again and cutting off gives no more than the number. -/
theorem trunc_mul_div_le (positive : 0 < divisor) (small : number < 2 ^ 51) :
    (((ofNat number).div (ofNat divisor)).mul (ofNat divisor)).trunc ≤ number := by
  have above := (Near.mul_div (near_div number positive) (near_mul _ divisor)).1
  generalize ((ofNat number).div (ofNat divisor)).mul (ofNat divisor) = again at above
  have scalePositive : 0 < 2 ^ again.scale := Nat.two_pow_pos _
  refine Nat.le_of_lt_succ ((Nat.div_lt_iff_lt_mul scalePositive).mpr ?_)
  refine Nat.lt_of_mul_lt_mul_left (a := 2 ^ 106) ?_
  calc 2 ^ 106 * again.significand
      ≤ (2 ^ 53 + 1) ^ 2 * number * 2 ^ again.scale := above
    _ < 2 ^ 106 * (number + 1) * 2 ^ again.scale :=
      Nat.mul_lt_mul_of_pos_right (by omega) scalePositive
    _ = 2 ^ 106 * ((number + 1) * 2 ^ again.scale) := Nat.mul_assoc _ _ _

/-- Dividing a number, multiplying again and cutting off gives at least the number before. -/
theorem le_trunc_mul_div (positive : 0 < divisor) (small : number < 2 ^ 51) :
    number - 1 ≤ (((ofNat number).div (ofNat divisor)).mul (ofNat divisor)).trunc := by
  have below := (Near.mul_div (near_div number positive) (near_mul _ divisor)).2
  generalize ((ofNat number).div (ofNat divisor)).mul (ofNat divisor) = again at below
  have scalePositive : 0 < 2 ^ again.scale := Nat.two_pow_pos _
  refine (Nat.le_div_iff_mul_le scalePositive).mpr ?_
  refine Nat.le_of_mul_le_mul_left (c := 2 ^ 106) ?_ (Nat.two_pow_pos 106)
  calc 2 ^ 106 * ((number - 1) * 2 ^ again.scale)
      = 2 ^ 106 * (number - 1) * 2 ^ again.scale := (Nat.mul_assoc _ _ _).symm
    _ ≤ (2 ^ 53 - 1) ^ 2 * number * 2 ^ again.scale := Nat.mul_le_mul_right _ (by omega)
    _ ≤ 2 ^ 106 * again.significand := below

end quotient

end Double

end JnTapi.Library
