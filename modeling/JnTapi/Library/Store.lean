/-
This file develops the filling of a buffer through a counter of a fixed width.

Each item goes to the place that the counter shows. Until the counter returns to
zero the items stand at the front of the buffer in their order. Where there are more
items than the counter has values, the last ones overwrite the others, and the
places behind them keep what they held.
-/

import Mathlib.Algebra.Group.Nat.Defs
import Mathlib.Data.List.Perm.Basic

namespace JnTapi.Library

variable {Item : Type*} {width : Nat}

/-- The buffer after the items have gone to the places that the counter shows -/
def store : List Item → BitVec width → List Item → List Item
  | [], _, buffer => buffer
  | item :: rest, count, buffer =>
    store rest (count + BitVec.ofNat width 1) (buffer.set count.toNat item)

theorem length_store (items : List Item) (count : BitVec width) (buffer : List Item) :
    (store items count buffer).length = buffer.length := by
  induction items generalizing count buffer with
  | nil => rfl
  | cons item rest inductionHypothesis => rw [store, inductionHypothesis, List.length_set]

theorem store_append (first rest : List Item) (count : BitVec width) (buffer : List Item) :
    store (first ++ rest) count buffer =
      store rest (count + BitVec.ofNat width first.length) (store first count buffer) := by
  induction first generalizing count buffer with
  | nil => rw [List.nil_append, List.length_nil, BitVec.add_zero, store]
  | cons item others inductionHypothesis =>
    rw [List.cons_append, store, inductionHypothesis, store, List.length_cons, BitVec.add_assoc,
      Nat.add_comm others.length, BitVec.ofNat_add]

/-- As long as the counter does not return to zero the items keep their order. -/
theorem store_of_fits (items : List Item) (start : Nat) (buffer : List Item)
    (fits : start + items.length ≤ 2 ^ width) (room : start + items.length ≤ buffer.length) :
    store items (BitVec.ofNat width start) buffer =
      buffer.take start ++ items ++ buffer.drop (start + items.length) := by
  induction items generalizing start buffer with
  | nil => rw [store, List.append_nil, List.length_nil, Nat.add_zero, List.take_append_drop]
  | cons item rest inductionHypothesis =>
    rw [List.length_cons, Nat.add_comm rest.length, ← Nat.add_assoc] at fits room
    have below : start < buffer.length := by omega
    have place : (BitVec.ofNat width start).toNat = start := by
      rw [BitVec.toNat_ofNat, Nat.mod_eq_of_lt (by omega)]
    have next : BitVec.ofNat width start + BitVec.ofNat width 1 = BitVec.ofNat width (start + 1) :=
      (BitVec.ofNat_add start 1).symm
    rw [store, place, next, inductionHypothesis _ _ fits (by rwa [List.length_set]),
      List.take_add_one, List.take_set_of_le (Nat.le_refl start), List.getElem?_set_self below,
      List.drop_set_of_lt (by omega), List.length_cons, Nat.add_comm rest.length, Nat.add_assoc,
      Option.toList_some, List.append_assoc, List.append_assoc, List.append_assoc]
    rfl

/-- A counter that starts at zero and does not return there puts the items in front. -/
theorem store_zero_of_fits (items buffer : List Item) (fits : items.length ≤ 2 ^ width)
    (room : items.length ≤ buffer.length) :
    store items (BitVec.ofNat width 0) buffer = items ++ buffer.drop items.length := by
  have filled := @store_of_fits _ width items 0 buffer (by rwa [Nat.zero_add])
    (by rwa [Nat.zero_add])
  rw [filled, List.take_zero, List.nil_append, Nat.zero_add]

/--
Where there are more items than values of the counter, the last ones stand in front,
in some order, and the places that the counter does not reach are left.
-/
theorem store_perm_of_wraps (items buffer : List Item) (wraps : 2 ^ width ≤ items.length)
    (room : items.length ≤ buffer.length) :
    (store items (BitVec.ofNat width 0) buffer).Perm
      (items.drop (items.length - 2 ^ width) ++ buffer.drop (2 ^ width)) := by
  induction size : items.length using Nat.strongRecOn generalizing items buffer with
  | ind size' inductionHypothesis =>
    subst size
    -- One round of the counter fills the front of the buffer and ends at zero again.
    obtain ⟨first, rest, rfl, round⟩ : ∃ first rest, items = first ++ rest ∧
        first.length = 2 ^ width :=
      ⟨items.take (2 ^ width), items.drop (2 ^ width), (List.take_append_drop _ _).symm,
        List.length_take_of_le wraps⟩
    have positive : 0 < 2 ^ width := Nat.two_pow_pos width
    rw [List.length_append, round] at wraps room ⊢
    have again : BitVec.ofNat width 0 + BitVec.ofNat width first.length =
        BitVec.ofNat width 0 := by
      rw [BitVec.zero_add, round]
      exact BitVec.eq_of_toNat_eq (by rw [BitVec.toNat_ofNat, Nat.mod_self, BitVec.toNat_zero])
    have behind : (first ++ buffer.drop (2 ^ width)).drop (2 ^ width) =
        buffer.drop (2 ^ width) := by
      rw [← round, List.drop_left]
    have roomLeft : rest.length ≤ (first ++ buffer.drop (2 ^ width)).length := by
      rw [List.length_append, List.length_drop, round]
      omega
    have last : (first ++ rest).drop rest.length =
        first.drop rest.length ++ rest.drop (rest.length - 2 ^ width) := by
      rw [List.drop_append, round]
    rw [store_append, again, store_zero_of_fits first buffer (Nat.le_of_eq round) (by omega),
      round, Nat.add_sub_cancel_left, last]
    rcases Nat.lt_or_ge rest.length (2 ^ width) with short | long
    · rw [store_zero_of_fits rest _ (Nat.le_of_lt short) roomLeft,
        List.drop_append_of_le_length (by omega), Nat.sub_eq_zero_of_le (Nat.le_of_lt short),
        List.drop_zero, ← List.append_assoc]
      exact List.perm_append_comm.append_right _
    · have shorter : rest.length < (first ++ rest).length := by
        rw [List.length_append]
        omega
      have spent : first.drop rest.length = [] := List.drop_eq_nil_of_le (by rwa [round])
      refine (inductionHypothesis rest.length shorter rest _ long roomLeft rfl).trans ?_
      rw [behind, spent, List.nil_append]

end JnTapi.Library
