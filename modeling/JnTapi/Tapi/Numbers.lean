/-
This file shows which number the TSP finds in the address of a caller, and that it
finds the dialled digits in the address that the core dials.
-/

import JnTapi.SipAddress
import JnTapi.Tapi.Line

namespace JnTapi

open Strings

namespace CallNotification

/-- A character is behind everything that is in front of its first place. -/
theorem exists_behind {text : TString} {char : Char} (inside : char ∈ text) :
    ∃ rest, text = text.takeWhile (· ≠ char) ++ char :: rest := by
  induction text with
  | nil => cases inside
  | cons first others inductionHypothesis =>
    by_cases same : first = char
    · exact ⟨others, by rw [List.takeWhile_cons_of_neg (by simp [same]), same, List.nil_append]⟩
    · obtain ⟨rest, cut⟩ :=
        inductionHypothesis ((List.mem_cons.mp inside).resolve_left (Ne.symm same))
      refine ⟨rest, ?_⟩
      rw [List.takeWhile_cons_of_pos (by simp [same]), List.cons_append, ← cut]

/-- A text of digits is what is left of it without everything else. -/
theorem stripNonNumeric_eq_self {number : TString} (digits : ∀ char ∈ number, char.isDigit) :
    stripNonNumeric number = number := by
  have printable : '\x00' ∉ number := fun member => absurd (digits _ member) (by decide)
  rw [stripNonNumeric, cStr_eq_self printable]
  exact List.filter_eq_self.mpr digits

/-- A text that loses no character was all digits. -/
theorem digits_of_length_eq {text : TString}
    (same : (stripNonNumeric text).length = text.length) : ∀ char ∈ text, char.isDigit := by
  have inside : (stripNonNumeric text).Sublist text :=
    List.filter_sublist.trans (List.takeWhile_prefix _).sublist
  intro char member
  rw [← inside.eq_of_length same] at member
  exact (List.mem_filter.mp member).2

/-- The number of an address that is a number -/
theorem extractNumberFromSip_of_number {number : TString}
    (digits : ∀ char ∈ number, char.isDigit) (rest : TString) :
    extractNumberFromSip ("sip:".toList ++ (number ++ '@' :: rest)) = number := by
  have starts : startsWith ("sip:".toList ++ (number ++ '@' :: rest)) "sip:".toList = true :=
    startsWith_iff.mpr (List.prefix_append _ _)
  have hasAt : Strings.contains ("sip:".toList ++ (number ++ '@' :: rest)) "@".toList = true :=
    contains_char_iff.mpr
      (List.mem_append_right _ (List.mem_append_right _ List.mem_cons_self))
  have before : ∀ char ∈ number, decide (char ≠ '@') = true := fun char member =>
    decide_eq_true fun same => absurd (digits char member) (by rw [same]; decide)
  have contents : (("sip:".toList ++ (number ++ '@' :: rest)).drop 4).takeWhile (· ≠ '@') =
      number := by
    rw [show ("sip:".toList ++ (number ++ '@' :: rest)).drop 4 = number ++ '@' :: rest from rfl,
      List.takeWhile_append_of_pos before, List.takeWhile_cons_of_neg (by decide),
      List.append_nil]
  rw [extractNumberFromSip, starts, hasAt]
  simp only [Bool.not_true, Bool.false_eq_true, if_false]
  rw [contents, stripNonNumeric_eq_self digits, if_pos rfl]

/-- An address in which a number is found is that number at some domain. -/
theorem number_of_extractNumberFromSip {uri : TString} (some : extractNumberFromSip uri ≠ []) :
    (∀ char ∈ extractNumberFromSip uri, char.isDigit) ∧
      ∃ rest, uri = "sip:".toList ++ (extractNumberFromSip uri ++ '@' :: rest) := by
  unfold extractNumberFromSip at some ⊢
  dsimp only at some ⊢
  split_ifs at some ⊢ with noScheme noAt whole
  · exact absurd rfl some
  · exact absurd rfl some
  · simp only [Bool.not_eq_true', Bool.not_eq_false] at noScheme noAt
    obtain ⟨address, rfl⟩ := startsWith_iff.mp noScheme
    have digits := digits_of_length_eq whole
    rw [stripNonNumeric_eq_self digits]
    refine ⟨digits, ?_⟩
    rw [show ("sip:".toList ++ address).drop 4 = address from rfl]
    have inside : '@' ∈ address := by
      have member := contains_char_iff.mp noAt
      exact (List.mem_append.mp member).resolve_left (by decide)
    obtain ⟨rest, cut⟩ := exists_behind inside
    exact ⟨rest, congrArg ("sip:".toList ++ ·) cut⟩
  · exact absurd rfl some

/-- The number that the TSP finds is the one in front of the domain, and where a number was
dialled it is made of the digits of the dial string. -/
theorem extractNumberFromSip_exact :
    (∀ uri number, (extractNumberFromSip uri = number ∧ number ≠ []) ↔
      (number ≠ [] ∧ (∀ char ∈ number, char.isDigit) ∧
        ∃ rest, uri = "sip:".toList ++ (number ++ '@' :: rest))) ∧
    ∀ number domain : TString, '@' ∉ number → (∃ char ∈ number, char.isDigit) →
      extractNumberFromSip (Xmpp.toField number domain) = number.filter Char.isDigit := by
  refine ⟨fun uri number => ⟨?_, ?_⟩, fun number domain plain _ => ?_⟩
  · rintro ⟨rfl, some⟩
    exact ⟨some, number_of_extractNumberFromSip some⟩
  · rintro ⟨some, digits, rest, rfl⟩
    exact ⟨extractNumberFromSip_of_number digits rest, some⟩
  · rw [Xmpp.toField_phone plain, Xmpp.digits_eq_filter]
    exact extractNumberFromSip_of_number (fun char member => (List.mem_filter.mp member).2) _

/-- The dashes of a dial string are gone when the number comes back. -/
theorem extractNumberFromSip_exact_dashes :
    extractNumberFromSip (Xmpp.toField "555-0100".toList "b.c".toList) = "5550100".toList := by
  rw [extractNumberFromSip_exact.2 _ _ (by decide) ⟨'5', by decide, by decide⟩]
  decide

end CallNotification

end JnTapi
