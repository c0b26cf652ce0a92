/-
This file develops Base64 without padding.

Three bytes are written as four sextets, and one or two bytes at the end as two or
three of them, filled up with zero bits. Reading the letters gives the bytes back.
-/

import Mathlib.Data.List.Basic

namespace JnTapi.Library.Base64

/-- Eight bits -/
abbrev Byte := BitVec 8

/-- Six bits -/
abbrev Sextet := BitVec 6

/-! ### Groups of bits -/

/-- The bytes cut into sextets -/
def sextets : List Byte → List Sextet
  | [] => []
  | [a] =>
    let group := a ++ 0#4
    [group.extractLsb' 6 6, group.extractLsb' 0 6]
  | [a, b] =>
    let group := a ++ b ++ 0#2
    [group.extractLsb' 12 6, group.extractLsb' 6 6, group.extractLsb' 0 6]
  | a :: b :: c :: rest =>
    let group := a ++ b ++ c
    group.extractLsb' 18 6 :: group.extractLsb' 12 6 :: group.extractLsb' 6 6 ::
      group.extractLsb' 0 6 :: sextets rest

/-- The sextets put together to bytes, without the bits that fill no byte -/
def bytes : List Sextet → List Byte
  | [] => []
  | [_] => []
  | [s, t] => [(s ++ t).extractLsb' 4 8]
  | [s, t, u] =>
    let group := s ++ t ++ u
    [group.extractLsb' 10 8, group.extractLsb' 2 8]
  | s :: t :: u :: v :: rest =>
    let group := s ++ t ++ u ++ v
    group.extractLsb' 16 8 :: group.extractLsb' 8 8 :: group.extractLsb' 0 8 :: bytes rest

theorem bytes_sextets (source : List Byte) : bytes (sextets source) = source := by
  fun_induction sextets source with
  | case1 => rfl
  | case2 a group =>
    have whole : group.extractLsb' 6 6 ++ group.extractLsb' 0 6 = group :=
      BitVec.extractLsb'_append_extractLsb'
    rw [bytes, whole, BitVec.extractLsb'_append_eq_left]
  | case3 a b group =>
    have whole : group.extractLsb' 12 6 ++ group.extractLsb' 6 6 ++ group.extractLsb' 0 6 =
        group := by
      rw [@BitVec.extractLsb'_append_extractLsb'_eq_extractLsb' _ 12 6 6 6 group rfl]
      exact BitVec.extractLsb'_append_extractLsb'
    have first : group.extractLsb' 10 8 = a := by
      rw [BitVec.extractLsb'_append_eq_of_le (by decide), BitVec.extractLsb'_append_eq_left]
    have second : group.extractLsb' 2 8 = b := by
      rw [BitVec.extractLsb'_append_eq_of_le (by decide), BitVec.extractLsb'_append_eq_right]
    rw [bytes, whole, first, second]
  | case4 a b c rest group inductionHypothesis =>
    have whole : group.extractLsb' 18 6 ++ group.extractLsb' 12 6 ++ group.extractLsb' 6 6 ++
        group.extractLsb' 0 6 = group := by
      rw [@BitVec.extractLsb'_append_extractLsb'_eq_extractLsb' _ 18 12 6 6 group rfl,
        @BitVec.extractLsb'_append_extractLsb'_eq_extractLsb' _ 12 6 6 12 group rfl]
      exact BitVec.extractLsb'_append_extractLsb'
    have first : group.extractLsb' 16 8 = a := by
      rw [BitVec.extractLsb'_append_eq_of_le (by decide), BitVec.extractLsb'_append_eq_left]
    have second : group.extractLsb' 8 8 = b := by
      rw [BitVec.extractLsb'_append_eq_of_le (by decide), BitVec.extractLsb'_append_eq_right]
    have third : group.extractLsb' 0 8 = c := BitVec.extractLsb'_append_eq_right
    rw [bytes, whole, first, second, third, inductionHypothesis]

theorem length_sextets (source : List Byte) :
    (sextets source).length = (4 * source.length + 2) / 3 := by
  fun_induction sextets source with
  | case1 => rfl
  | case2 => simp only [List.length_cons, List.length_nil]
  | case3 => simp only [List.length_cons, List.length_nil]
  | case4 a b c rest group inductionHypothesis =>
    simp only [List.length_cons, inductionHypothesis]
    omega

/-! ### Letters -/

/-- The letters of the sextets -/
def alphabet : List Byte :=
  ("ABCDEFGHIJKLMNOPQRSTUVWXYZabcdefghijklmnopqrstuvwxyz0123456789+/".toList).map
    fun char => BitVec.ofNat 8 char.toNat

/-- The letter of a sextet -/
def letter (sextet : Sextet) : Byte :=
  alphabet.getD sextet.toNat 0

/-- The sextet of a letter -/
def value (byte : Byte) : Option Sextet :=
  if byte ∈ alphabet then some (BitVec.ofNat 6 (alphabet.idxOf byte)) else none

/-- The bytes written with letters -/
def encode (source : List Byte) : List Byte :=
  (sextets source).map letter

/-- The bytes that the letters of a text are, whatever else stands between them -/
def decode (text : List Byte) : List Byte :=
  bytes (text.filterMap value)

theorem value_letter : ∀ sextet, value (letter sextet) = some sextet := by
  decide +kernel

theorem decode_encode (source : List Byte) : decode (encode source) = source := by
  have read : (value ∘ letter) = some := funext value_letter
  rw [decode, encode, List.filterMap_map, read, List.filterMap_some, bytes_sextets]

theorem length_encode (source : List Byte) :
    (encode source).length = (4 * source.length + 2) / 3 := by
  rw [encode, List.length_map, length_sextets]

end JnTapi.Library.Base64
