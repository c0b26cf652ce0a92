/-
This file cuts a list into its tokens, the longest parts without a separator, and
says which lists have no token, a first token or exactly two tokens. It also takes
the blanks off both ends of a list.

Runs of separators count as one, and separators before the first and after the
last token do not count at all.
-/

import Mathlib.Data.List.DropRight
import Mathlib.Data.List.TakeWhile

namespace JnTapi.Library

variable {α : Type*} (sep : α → Bool)

/-- The tokens of a list, in order -/
def tokens (text : List α) : List (List α) :=
  match _ : text.dropWhile sep with
  | [] => []
  | first :: rest =>
    (first :: rest.takeWhile (!sep ·)) :: tokens (rest.dropWhile (!sep ·))
termination_by text.length
decreasing_by
  have shorter : (rest.dropWhile (!sep ·)).length ≤ rest.length :=
    (List.dropWhile_suffix _).length_le
  have inside : (text.dropWhile sep).length ≤ text.length := (List.dropWhile_suffix _).length_le
  rw [‹text.dropWhile sep = first :: rest›, List.length_cons] at inside
  omega

variable {sep}

theorem tokens_of_dropWhile_nil {text : List α} (found : text.dropWhile sep = []) :
    tokens sep text = [] := by
  rw [tokens]
  split
  · rfl
  · next other => cases found.symm.trans other

theorem tokens_of_dropWhile_cons {text rest : List α} {first : α}
    (found : text.dropWhile sep = first :: rest) :
    tokens sep text =
      (first :: rest.takeWhile (!sep ·)) :: tokens sep (rest.dropWhile (!sep ·)) := by
  rw [tokens]
  split
  · next other => cases found.symm.trans other
  · next other =>
    cases found.symm.trans other
    rfl

theorem tokens_eq_nil_iff {text : List α} : tokens sep text = [] ↔ ∀ char ∈ text, sep char := by
  rw [← List.dropWhile_eq_nil_iff]
  refine ⟨fun none => ?_, tokens_of_dropWhile_nil⟩
  cases found : text.dropWhile sep with
  | nil => rfl
  | cons first rest => cases (tokens_of_dropWhile_cons found).symm.trans none

/-! ### The first token -/

/-- What is in front of the first token, the token, and what follows it -/
structure FirstToken (sep : α → Bool) (text lead token rest : List α) : Prop where
  split : text = lead ++ (token ++ rest)
  separators : ∀ char ∈ lead, sep char
  nonempty : token ≠ []
  free : ∀ char ∈ token, sep char = false
  ends : ∀ char ∈ rest.head?, sep char

theorem FirstToken.tokens_eq {text lead token rest : List α}
    (parts : FirstToken sep text lead token rest) :
    tokens sep text = token :: tokens sep rest := by
  obtain ⟨first, others, rfl⟩ := List.exists_cons_of_ne_nil parts.nonempty
  have notFirst : sep first = false := parts.free first List.mem_cons_self
  have notOthers : ∀ char ∈ others, (!sep char) = true := fun char member => by
    rw [parts.free char (List.mem_cons_of_mem _ member), Bool.not_false]
  have found : text.dropWhile sep = first :: (others ++ rest) := by
    rw [parts.split, List.dropWhile_append_of_pos parts.separators, List.cons_append,
      List.dropWhile_cons_of_neg (by rw [notFirst]; exact Bool.false_ne_true)]
  have stops : rest.takeWhile (!sep ·) = [] ∧ rest.dropWhile (!sep ·) = rest := by
    cases rest with
    | nil => exact ⟨rfl, rfl⟩
    | cons next further =>
      have separator : ¬(!sep next) = true := by rw [parts.ends next rfl]; exact Bool.false_ne_true
      exact ⟨List.takeWhile_cons_of_neg separator, List.dropWhile_cons_of_neg separator⟩
  rw [tokens_of_dropWhile_cons found, List.takeWhile_append_of_pos notOthers,
    List.dropWhile_append_of_pos notOthers, stops.1, stops.2, List.append_nil]

theorem firstToken_of_tokens {text token : List α} {others : List (List α)}
    (cut : tokens sep text = token :: others) :
    ∃ lead rest, FirstToken sep text lead token rest ∧ tokens sep rest = others := by
  cases found : text.dropWhile sep with
  | nil => cases (tokens_of_dropWhile_nil found).symm.trans cut
  | cons first rest =>
    obtain ⟨rfl, rfl⟩ := List.cons.inj ((tokens_of_dropWhile_cons found).symm.trans cut)
    have notFirst : sep first = false :=
      Bool.eq_false_iff.mpr fun separator =>
        List.dropWhile_get_zero_not sep text (by rw [found]; exact Nat.succ_pos _) (by
          simpa [found] using separator)
    refine ⟨text.takeWhile sep, rest.dropWhile (!sep ·), ⟨?_, ?_, List.cons_ne_nil _ _, ?_, ?_⟩, rfl⟩
    · rw [List.cons_append, List.takeWhile_append_dropWhile, ← found,
        List.takeWhile_append_dropWhile]
    · exact fun char member => List.mem_takeWhile_imp member
    · intro char member
      rcases List.mem_cons.mp member with rfl | later
      · exact notFirst
      · exact (Bool.not_eq_true' _).mp (List.mem_takeWhile_imp (p := (!sep ·)) later)
    · intro char head
      have stopped := List.head?_dropWhile_not (!sep ·) rest
      rw [Option.mem_def.mp head] at stopped
      exact (Bool.not_eq_false' _).mp stopped

/-! ### Two tokens -/

/-- A list of two tokens: separators stand between them and may stand around them. -/
structure TwoTokens (sep : α → Bool) (text first second : List α) : Prop where
  split : ∃ lead mid trail, text = lead ++ (first ++ (mid ++ (second ++ trail))) ∧ mid ≠ [] ∧
    ∀ char ∈ lead ++ mid ++ trail, sep char
  nonempty : first ≠ [] ∧ second ≠ []
  free : ∀ char ∈ first ++ second, sep char = false

theorem tokens_eq_pair_iff {text first second : List α} :
    tokens sep text = [first, second] ↔ TwoTokens sep text first second := by
  constructor
  · intro cut
    obtain ⟨lead, rest, one, later⟩ := firstToken_of_tokens cut
    obtain ⟨mid, trail, two, none⟩ := firstToken_of_tokens later
    refine ⟨⟨lead, mid, trail, by rw [one.split, two.split], ?_, ?_⟩,
      ⟨one.nonempty, two.nonempty⟩, ?_⟩
    · rintro rfl
      obtain ⟨char, others, rfl⟩ := List.exists_cons_of_ne_nil two.nonempty
      have separator : sep char := one.ends char (by rw [two.split]; rfl)
      exact Bool.false_ne_true ((two.free char List.mem_cons_self).symm.trans separator)
    · intro char member
      rcases List.mem_append.mp member with before | behind
      · rcases List.mem_append.mp before with inLead | inMid
        · exact one.separators char inLead
        · exact two.separators char inMid
      · exact tokens_eq_nil_iff.mp none char behind
    · intro char member
      rcases List.mem_append.mp member with inFirst | inSecond
      · exact one.free char inFirst
      · exact two.free char inSecond
  · rintro ⟨⟨lead, mid, trail, split, between, separators⟩, ⟨firstSome, secondSome⟩, free⟩
    have inTrail : ∀ char ∈ trail, sep char := fun char member =>
      separators char (List.mem_append_right _ member)
    have two : FirstToken sep (mid ++ (second ++ trail)) mid second trail :=
      ⟨rfl, fun char member => separators char (by simp [member]), secondSome,
        fun char member => free char (List.mem_append_right _ member),
        fun char head => inTrail char (List.mem_of_mem_head? head)⟩
    have one : FirstToken sep text lead first (mid ++ (second ++ trail)) := by
      refine ⟨split, fun char member => separators char (by simp [member]), firstSome,
        fun char member => free char (List.mem_append_left _ member), fun char head => ?_⟩
      obtain ⟨next, further, rfl⟩ := List.exists_cons_of_ne_nil between
      cases Option.mem_some.mp head
      exact separators char (by simp)
    rw [one.tokens_eq, two.tokens_eq, tokens_eq_nil_iff.mpr inTrail]

/-! ### Blanks at the ends -/

/-- What is left of a list without the blanks at its ends -/
structure Trimmed (blank : α → Bool) (text inner : List α) : Prop where
  split : ∃ left right, text = left ++ (inner ++ right) ∧ ∀ char ∈ left ++ right, blank char
  first : ∀ char ∈ inner.head?, ¬ blank char
  last : ∀ char ∈ inner.getLast?, ¬ blank char

variable {blank : α → Bool}

theorem trimmed_dropWhile (text : List α) :
    Trimmed blank text ((text.rdropWhile blank).dropWhile blank) := by
  set kept := text.rdropWhile blank with keptIs
  refine ⟨⟨kept.takeWhile blank, text.rtakeWhile blank, ?_, fun char member => ?_⟩, ?_, ?_⟩
  · rw [← List.append_assoc, List.takeWhile_append_dropWhile, List.rdropWhile_append_rtakeWhile]
  · rcases List.mem_append.mp member with inLeft | inRight
    · exact List.mem_takeWhile_imp inLeft
    · exact List.mem_rtakeWhile_imp inRight
  · intro char head
    have stopped := List.head?_dropWhile_not blank kept
    rw [Option.mem_def.mp head] at stopped
    exact Bool.eq_false_iff.mp stopped
  · intro char final
    have behind : kept.dropWhile blank <:+ kept := List.dropWhile_suffix _
    have some : kept.dropWhile blank ≠ [] := fun none => by rw [none] at final; cases final
    have someKept : kept ≠ [] := fun none => some (List.suffix_nil.mp (none ▸ behind))
    rw [List.getLast?_eq_some_getLast some, Option.mem_some, behind.getLast some] at final
    exact final ▸ List.rdropWhile_last_not blank text someKept

theorem Trimmed.eq_dropWhile {text inner : List α} (trimmed : Trimmed blank text inner) :
    inner = (text.rdropWhile blank).dropWhile blank := by
  obtain ⟨left, right, rfl, blanks⟩ := trimmed.split
  have inLeft : ∀ char ∈ left, blank char := fun char member =>
    blanks char (List.mem_append_left _ member)
  have inRight : ∀ char ∈ right.reverse, blank char := fun char member =>
    blanks char (List.mem_append_right _ (List.mem_reverse.mp member))
  have cutRight : (left ++ (inner ++ right)).rdropWhile blank =
      (left ++ inner).rdropWhile blank := by
    rw [List.rdropWhile, ← List.append_assoc, List.reverse_append,
      List.dropWhile_append_of_pos inRight, List.rdropWhile]
  cases inner with
  | nil =>
    have none : (left ++ []).rdropWhile blank = [] :=
      List.rdropWhile_eq_nil_iff.mpr (by rwa [List.append_nil])
    rw [cutRight, none]
    rfl
  | cons first others =>
    have kept : (left ++ first :: others).rdropWhile blank = left ++ first :: others := by
      refine List.rdropWhile_eq_self_iff.mpr fun some => ?_
      rw [List.getLast_append_of_right_ne_nil _ _ (List.cons_ne_nil _ _)]
      exact trimmed.last _ (List.getLast?_eq_some_getLast _)
    rw [cutRight, kept, List.dropWhile_append_of_pos inLeft,
      List.dropWhile_cons_of_neg (trimmed.first first rfl)]

theorem trimmed_iff {text inner : List α} :
    Trimmed blank text inner ↔ inner = (text.rdropWhile blank).dropWhile blank :=
  ⟨Trimmed.eq_dropWhile, fun same => same ▸ trimmed_dropWhile text⟩

end JnTapi.Library
