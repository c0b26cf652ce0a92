/-
This file develops a list of parties of which one moves at a time.

The party that moves stands between those before it and those after it, and only it
is replaced. So whatever the parties hold or weigh together changes by what the one
party holds or weighs.
-/

import Mathlib.Algebra.BigOperators.Group.List.Basic
import Mathlib.Data.List.Basic

namespace JnTapi.Library

variable {Party : Type*}

/-- The party at an index, with the others around it -/
theorem exists_around {parties : List Party} {index : Nat} {party : Party}
    (found : parties[index]? = some party) :
    ∃ before after, parties = before ++ party :: after ∧ before.length = index ∧
      ∀ moved, parties.set index moved = before ++ moved :: after := by
  obtain ⟨bound, rfl⟩ := List.getElem?_eq_some_iff.mp found
  have length : (parties.take index).length = index := by
    rw [List.length_take, Nat.min_eq_left (Nat.le_of_lt bound)]
  refine ⟨parties.take index, parties.drop (index + 1), ?_, length, fun moved => ?_⟩
  · rw [List.getElem_cons_drop, List.take_append_drop]
  · exact List.set_eq_take_cons_drop moved bound

/-- What the parties weigh together, when one of them has moved -/
theorem sum_map_set {Weight : Type*} [AddCommMonoid Weight] {parties : List Party} {index : Nat}
    {party : Party} (found : parties[index]? = some party) (weight : Party → Weight)
    (moved : Party) :
    ((parties.set index moved).map weight).sum + weight party =
      (parties.map weight).sum + weight moved := by
  obtain ⟨before, after, rfl, -, set⟩ := exists_around found
  rw [set, List.map_append, List.map_append, List.map_cons, List.map_cons, List.sum_append,
    List.sum_append, List.sum_cons, List.sum_cons]
  ac_rfl

/-- A party other than the moving one is still there. -/
theorem mem_set_of_ne {parties : List Party} {index : Nat} {party other moved : Party}
    (found : parties[index]? = some party) (member : other ∈ parties) (different : other ≠ party) :
    other ∈ parties.set index moved := by
  obtain ⟨before, after, rfl, -, set⟩ := exists_around found
  rw [set]
  rcases List.mem_append.mp member with left | right
  · exact List.mem_append_left _ left
  · rcases List.mem_cons.mp right with same | right
    · exact absurd same different
    · exact List.mem_append_right _ (List.mem_cons_of_mem _ right)

/-- The moved party is there. -/
theorem mem_set_self {parties : List Party} {index : Nat} {party : Party}
    (found : parties[index]? = some party) (moved : Party) : moved ∈ parties.set index moved := by
  obtain ⟨before, after, rfl, -, set⟩ := exists_around found
  rw [set]
  exact List.mem_append_right _ List.mem_cons_self

/-- Who stands at a place, when one party has moved -/
theorem getElem?_set_eq_some {parties : List Party} {index place : Nat}
    {party moved other : Party} (found : parties[index]? = some party) :
    (parties.set index moved)[place]? = some other ↔
      place = index ∧ other = moved ∨ place ≠ index ∧ parties[place]? = some other := by
  obtain ⟨bound, -⟩ := List.getElem?_eq_some_iff.mp found
  by_cases same : place = index
  · rw [same, List.getElem?_set_self bound, Option.some_inj]
    simp only [true_and, ne_eq, not_true_eq_false, false_and, or_false]
    exact eq_comm
  · rw [List.getElem?_set_ne (Ne.symm same)]
    simp only [same, false_and, ne_eq, not_false_eq_true, true_and, false_or]

/-- Who stands at a place, when one more party has come -/
theorem getElem?_concat_eq_some {parties : List Party} {place : Nat} {party other : Party} :
    (parties ++ [party])[place]? = some other ↔
      parties[place]? = some other ∨ place = parties.length ∧ other = party := by
  rw [List.getElem?_append]
  split_ifs with bound
  · exact ⟨Or.inl, fun found => found.resolve_right fun last => Nat.ne_of_lt bound last.1⟩
  · rw [List.getElem?_eq_none (Nat.le_of_not_lt bound), List.getElem?_singleton]
    constructor
    · intro found
      split_ifs at found with last
      exact Or.inr ⟨by omega, (Option.some.inj found).symm⟩
    · rintro (found | ⟨rfl, rfl⟩)
      · cases found
      · rw [Nat.sub_self, if_pos rfl]

end JnTapi.Library
