/-
This file models the strings of the program and the operations of `Strings` on
them that the call and login code uses.

A `tstring` is a list of characters. The operations that the program passes
through `c_str` stop at the first zero character, as they do there.
-/

import Mathlib.Data.List.DropRight
import Mathlib.Data.List.Infix
import JnTapi.Library.Tokens

namespace JnTapi

open Library

/-- `tstring` -/
abbrev TString := List Char

namespace Strings

/-- The characters that `c_str` shows to a reader of a zero-terminated string. -/
def cStr (str : TString) : TString := str.takeWhile (· ≠ '\x00')

/-- `Strings::startsWith` -/
def startsWith (str chars : TString) : Bool := chars.isPrefixOf str

/-- `Strings::contains` -/
def contains (str chars : TString) : Bool := str.tails.any (startsWith · chars)

/-- `Strings::stripNonNumeric` -/
def stripNonNumeric (str : TString) : TString := (cStr str).filter Char.isDigit

/-- `Strings::tolower`, in the "C" locale -/
def tolower (str : TString) : TString := str.map Char.toLower

/-- `SPACES` -/
def spaces : TString := [' ', '\t', '\r', '\n']

/-- `Strings::trim_right` -/
def trimRight (str chars : TString) : TString := str.rdropWhile chars.contains

/-- `Strings::trim_left` -/
def trimLeft (str chars : TString) : TString := str.dropWhile chars.contains

/-- `Strings::trim` -/
def trim (str chars : TString) : TString := trimLeft (trimRight str chars) chars

/-- `Strings::split` -/
def split (str delimiters : TString) : List TString := tokens delimiters.contains str

/-- Pads with zeros on the left up to the width. -/
def padZeros (width : Nat) (digits : TString) : TString :=
  List.replicate (width - digits.length) '0' ++ digits

/-- `Strings::stringFormat` with the format `%08ld`: the sign counts for the width. -/
def formatLong08 (value : Int) : TString :=
  if value < 0 then '-' :: padZeros 7 (Nat.toDigits 10 value.natAbs)
  else padZeros 8 (Nat.toDigits 10 value.natAbs)

/-- `Strings::stringFormat` with the format `%s@%s` -/
def formatAddress (user domain : TString) : TString := cStr user ++ '@' :: cStr domain

/-- `Strings::stringFormat` with the format `sip:%s` -/
def formatSip (address : TString) : TString := "sip:".toList ++ cStr address

/-! ### What the operations say -/

theorem startsWith_iff {str chars : TString} : startsWith str chars = true ↔ chars <+: str :=
  List.isPrefixOf_iff_prefix

theorem contains_char_iff {str : TString} {char : Char} :
    contains str [char] = true ↔ char ∈ str := by
  simp only [contains, List.any_eq_true, List.mem_tails, startsWith_iff]
  constructor
  · rintro ⟨_, behind, rest, rfl⟩
    exact behind.subset List.mem_cons_self
  · intro member
    obtain ⟨before, after, rfl⟩ := List.append_of_mem member
    exact ⟨char :: after, List.suffix_append before _, after, rfl⟩

theorem tolower_append (first second : TString) :
    tolower (first ++ second) = tolower first ++ tolower second :=
  List.map_append

theorem toNat_toLower (char : Char) :
    char.toLower.toNat =
      if 65 ≤ char.toNat ∧ char.toNat ≤ 90 then char.toNat + 32 else char.toNat := by
  have bounds : (char.val ≥ 'A'.val ∧ char.val ≤ 'Z'.val) ↔
      65 ≤ char.toNat ∧ char.toNat ≤ 90 := by
    rw [ge_iff_le, UInt32.le_iff_toNat_le, UInt32.le_iff_toNat_le]
    rfl
  by_cases upper : 65 ≤ char.toNat ∧ char.toNat ≤ 90
  · have shifted : char.toLower.val = char.val + 32 := by
      delta Char.toLower
      rw [dif_pos (bounds.mpr upper)]
      rfl
    rw [if_pos upper, Char.toNat, shifted, UInt32.toNat_add]
    exact Nat.mod_eq_of_lt (by rw [← Char.toNat]; simp; omega)
  · delta Char.toLower
    rw [if_neg upper, dif_neg (bounds.not.mpr upper)]

theorem cStr_eq_self {str : TString} (printable : '\x00' ∉ str) : cStr str = str :=
  List.takeWhile_eq_self_iff.mpr fun _ member =>
    decide_eq_true fun zero => printable (zero ▸ member)

theorem zero_not_mem_cStr (str : TString) : '\x00' ∉ cStr str := by
  intro member
  have kept := List.mem_takeWhile_imp (p := fun char : Char => decide (char ≠ '\x00')) member
  exact of_decide_eq_true kept rfl

theorem cStr_eq_self_iff {str : TString} : cStr str = str ↔ '\x00' ∉ str :=
  ⟨fun same => same ▸ zero_not_mem_cStr str, cStr_eq_self⟩

end Strings

end JnTapi
