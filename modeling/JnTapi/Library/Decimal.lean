/-
This file proves what a text of decimal digits says.

A text of digits has a value, and among the texts of one length the value
determines the text. The last digits of a text give the value modulo a power of
ten.
-/

import Mathlib.Algebra.Group.Nat.Defs
import Mathlib.Data.List.Basic

namespace JnTapi.Library

/-- All characters are decimal digits. -/
def Digits (text : List Char) : Prop := ∀ char ∈ text, char.isDigit = true

theorem digits_toDigits (value : Nat) : Digits (Nat.toDigits 10 value) :=
  fun _ member => Nat.isDigit_of_mem_toDigits (by decide) (by decide) member

theorem Digits.append {first second : List Char} (left : Digits first) (right : Digits second) :
    Digits (first ++ second) := by
  intro char member
  rcases List.mem_append.mp member with earlier | later
  · exact left char earlier
  · exact right char later

theorem digits_replicate_zero (count : Nat) : Digits (List.replicate count '0') := by
  intro char member
  rw [List.eq_of_mem_replicate member]
  rfl

theorem Digits.drop {text : List Char} (digits : Digits text) (count : Nat) :
    Digits (text.drop count) :=
  fun char member => digits char (List.mem_of_mem_drop member)

theorem digit_bounds {char : Char} (digit : char.isDigit = true) :
    48 ≤ char.toNat ∧ char.toNat ≤ 57 := by
  simpa [Char.isDigit, UInt32.le_iff_toNat_le] using digit

theorem value_append (first second : List Char) :
    Nat.ofDigitChars 10 (first ++ second) 0 =
      10 ^ second.length * Nat.ofDigitChars 10 first 0 + Nat.ofDigitChars 10 second 0 := by
  rw [Nat.ofDigitChars_append, Nat.ofDigitChars_eq_ofDigitChars_zero]

/-- Leading zeros do not count. -/
theorem value_zeros_append (count : Nat) (text : List Char) :
    Nat.ofDigitChars 10 (List.replicate count '0' ++ text) 0 = Nat.ofDigitChars 10 text 0 := by
  rw [Nat.ofDigitChars_append, Nat.ofDigitChars_replicate_zero, Nat.mul_zero]

theorem value_cons (char : Char) (rest : List Char) :
    Nat.ofDigitChars 10 (char :: rest) 0 =
      10 ^ rest.length * (char.toNat - 48) + Nat.ofDigitChars 10 rest 0 := by
  rw [Nat.ofDigitChars_cons, Nat.ofDigitChars_eq_ofDigitChars_zero, Nat.mul_zero, Nat.zero_add]
  rfl

theorem Digits.value_lt {text : List Char} (digits : Digits text) :
    Nat.ofDigitChars 10 text 0 < 10 ^ text.length := by
  induction text with
  | nil => decide
  | cons char rest inductionHypothesis =>
    have tail := inductionHypothesis fun other member => digits other (List.mem_cons_of_mem _ member)
    have bounds := digit_bounds (digits char List.mem_cons_self)
    have head : 10 ^ rest.length * (char.toNat - 48) ≤ 10 ^ rest.length * 9 :=
      Nat.mul_le_mul_left _ (by omega)
    rw [value_cons, List.length_cons, Nat.pow_succ]
    omega

/-- Among the texts of one length the value determines the text. -/
theorem Digits.eq_of_value_eq {first second : List Char} (left : Digits first)
    (right : Digits second) (sameLength : first.length = second.length)
    (sameValue : Nat.ofDigitChars 10 first 0 = Nat.ofDigitChars 10 second 0) : first = second := by
  induction first generalizing second with
  | nil => exact (List.length_eq_zero_iff.mp sameLength.symm).symm
  | cons char rest inductionHypothesis =>
    cases second with
    | nil => cases sameLength
    | cons other otherRest =>
      have tailLength : rest.length = otherRest.length := Nat.succ.inj sameLength
      have leftTail : Digits rest := fun char member => left char (List.mem_cons_of_mem _ member)
      have rightTail : Digits otherRest := fun char member =>
        right char (List.mem_cons_of_mem _ member)
      have leftSmall := leftTail.value_lt
      have rightSmall := rightTail.value_lt
      rw [value_cons, value_cons, ← tailLength] at sameValue
      rw [← tailLength] at rightSmall
      -- The first digit is the quotient of the value, the rest is its remainder.
      have sameHead : char.toNat - 48 = other.toNat - 48 := by
        have quotients := congrArg (· / 10 ^ rest.length) sameValue
        simpa [Nat.mul_add_div (Nat.pow_pos (by decide : 0 < 10)), Nat.div_eq_of_lt leftSmall,
          Nat.div_eq_of_lt rightSmall] using quotients
      have sameTail : Nat.ofDigitChars 10 rest 0 = Nat.ofDigitChars 10 otherRest 0 := by
        rw [sameHead] at sameValue
        exact Nat.add_left_cancel sameValue
      have bounds := digit_bounds (left char List.mem_cons_self)
      have otherBounds := digit_bounds (right other List.mem_cons_self)
      have sameChar : char = other := Char.toNat_inj.mp (by omega)
      rw [sameChar, inductionHypothesis leftTail rightTail tailLength sameTail]

/-- The last digits give the value modulo a power of ten. -/
theorem Digits.value_drop {text : List Char} (digits : Digits text) {count : Nat}
    (atMost : count ≤ text.length) :
    Nat.ofDigitChars 10 (text.drop (text.length - count)) 0 =
      Nat.ofDigitChars 10 text 0 % 10 ^ count := by
  have length : (text.drop (text.length - count)).length = count := by
    rw [List.length_drop]
    omega
  have small := (digits.drop (text.length - count)).value_lt
  rw [length] at small
  have split := value_append (text.take (text.length - count)) (text.drop (text.length - count))
  rw [List.take_append_drop, length] at split
  rw [split, Nat.mul_add_mod, Nat.mod_eq_of_lt small]

end JnTapi.Library
