/-
This library is about clocks of a fixed width that are read again and again.

A clock counts the true time and wraps. The difference of two readings, as a signed
number, is the time between them as long as it is below half of the range. An endless
sequence of visits that are never more than a gap apart meets every stretch of time
that is as long as the gap, and so finds any given difference, and little more.
-/

import Mathlib.Data.BitVec
import Mathlib.Order.Monotone.Basic
import Mathlib.Order.OrderIsoNat

namespace JnTapi.Library

/-! ### Clocks that wrap -/

section ticks

variable {width elapsed : Nat}

/-- The time since a tick is what it is, wherever the clock has wrapped in between. -/
theorem toInt_elapsed (small : 2 * elapsed < 2 ^ width) (start : BitVec width) :
    (start + BitVec.ofNat width elapsed - start).toInt = elapsed := by
  have inside : elapsed % 2 ^ width = elapsed := Nat.mod_eq_of_lt (by omega)
  rw [BitVec.add_comm, BitVec.add_sub_cancel, BitVec.toInt_eq_toNat_cond, BitVec.toNat_ofNat,
    inside, if_pos small]

/-- The clock shows every tick again and again. -/
theorem exists_time (tick : BitVec width) (earliest : Nat) :
    ∃ time, earliest < time ∧ BitVec.ofNat width time = tick := by
  have positive : 0 < 2 ^ width := Nat.two_pow_pos width
  refine ⟨tick.toNat + 2 ^ width * (earliest + 1), ?_, ?_⟩
  · have atLeast : earliest + 1 ≤ 2 ^ width * (earliest + 1) := Nat.le_mul_of_pos_left _ positive
    omega
  · refine BitVec.eq_of_toNat_eq ?_
    rw [BitVec.toNat_ofNat, Nat.add_mul_mod_self_left]
    exact Nat.mod_eq_of_lt tick.isLt

/-- After the moment at which so much time has passed since a tick, the clock shows how much more
has passed. -/
theorem toInt_since {start : BitVec width} {moment time : Nat}
    (marks : BitVec.ofNat width moment = start + BitVec.ofNat width elapsed) (after : moment ≤ time)
    (small : 2 * (elapsed + (time - moment)) < 2 ^ width) :
    (BitVec.ofNat width time - start).toInt = elapsed + (time - moment : Nat) := by
  have shown : BitVec.ofNat width time =
      start + BitVec.ofNat width (elapsed + (time - moment)) := by
    rw [BitVec.ofNat_add, ← BitVec.add_assoc, ← marks, ← BitVec.ofNat_add]
    congr 1
    omega
  rw [shown, toInt_elapsed small, Nat.cast_add]

/-- The sum of a tick and a limit is below the sum of the tick and a time just when the limit is
below the time, provided that both sums have wrapped or neither has. -/
theorem add_lt_add_iff_of_wrap {limit elapsed : Nat} (small : limit < 2 ^ width)
    (inside : elapsed < 2 ^ width) (start : BitVec width) :
    (start + BitVec.ofNat width limit < start + BitVec.ofNat width elapsed ↔ limit < elapsed) ↔
      (start.toNat + limit < 2 ^ width ↔ start.toNat + elapsed < 2 ^ width) := by
  have bound := start.isLt
  have sum : ∀ {time : Nat}, time < 2 ^ width → (start + BitVec.ofNat width time).toNat =
      if start.toNat + time < 2 ^ width then start.toNat + time
      else start.toNat + time - 2 ^ width := by
    intro time less
    rw [BitVec.toNat_add, BitVec.toNat_ofNat, Nat.mod_eq_of_lt less]
    split_ifs with wraps
    · exact Nat.mod_eq_of_lt wraps
    · rw [Nat.mod_eq_sub_mod (not_lt.mp wraps), Nat.mod_eq_of_lt (by omega)]
  rw [BitVec.lt_def, sum small, sum inside]
  split_ifs <;> omega

end ticks

/-! ### Visits that come again -/

section visits

variable {time : Nat → Nat} {visited : Nat → Prop} {first gap : Nat}

/-- From the first step on, there is always another visit within the gap. -/
def Recurs (time : Nat → Nat) (visited : Nat → Prop) (first gap : Nat) : Prop :=
  ∀ step, first ≤ step → ∃ next, step < next ∧ visited next ∧ time next ≤ time step + gap

theorem Recurs.later (recurs : Recurs time visited first gap) {start : Nat}
    (after : first ≤ start) : Recurs time visited start gap :=
  fun step later => recurs step (after.trans later)

/-- A step takes no longer than the gap. -/
theorem Recurs.step_le (recurs : Recurs time visited first gap) (forward : Monotone time)
    {step : Nat} (after : first ≤ step) : time (step + 1) ≤ time step + gap := by
  obtain ⟨next, later, -, soon⟩ := recurs step after
  exact (forward later).trans soon

/-- Visits of which each is followed by another within the gap recur from any of them on. -/
theorem recurs_of_next (forward : Monotone time) (here : visited first)
    (next : ∀ step, first ≤ step → visited step →
      ∃ next, step < next ∧ visited next ∧ time next ≤ time step + gap) :
    Recurs time visited first gap := by
  intro step after
  induction step, after using Nat.le_induction with
  | base => exact next first (le_refl first) here
  | succ step after inductionHypothesis =>
    obtain ⟨visit, later, visits, soon⟩ := inductionHypothesis
    by_cases same : visit = step + 1
    · subst same
      exact next (step + 1) (after.trans (Nat.le_succ step)) visits
    · have atLeast : time step ≤ time (step + 1) := forward (Nat.le_succ step)
      exact ⟨visit, by omega, visits, by omega⟩

/-- In a time that goes on for ever, every stretch as long as the gap is visited. -/
theorem Recurs.visits (recurs : Recurs time visited first gap) (forward : Monotone time)
    (endless : ∀ bound, ∃ step, bound ≤ time step) {target : Nat} (later : time first < target) :
    ∃ visit, first < visit ∧ visited visit ∧ target ≤ time visit ∧ time visit < target + gap := by
  -- The last step before the target; the visit that it promises is not before the target.
  have reached := endless target
  have atTarget := Nat.find_spec reached
  have afterFirst : first < Nat.find reached := by
    by_contra notAfter
    have before := forward (not_lt.mp notAfter)
    omega
  obtain ⟨step, last⟩ := Nat.exists_eq_add_one_of_ne_zero (by omega : Nat.find reached ≠ 0)
  have before : time step < target := not_le.mp (Nat.find_min reached (by omega))
  obtain ⟨visit, next, visits, soon⟩ := recurs step (by omega)
  have notBefore : time (Nat.find reached) ≤ time visit := forward (by omega)
  exact ⟨visit, by omega, visits, by omega, by omega⟩

end visits

/-- What holds at first and not at last ends somewhere in between. -/
theorem exists_end {holds ends : Nat → Prop} {first last : Nat} (after : first ≤ last)
    (start : holds first) (goesOn : ∀ step, first ≤ step → holds step → holds (step + 1) ∨ ends step)
    (ended : ¬ holds last) : ∃ step, first ≤ step ∧ step < last ∧ ends step := by
  by_contra none
  push Not at none
  have always : ∀ step, first ≤ step → step ≤ last → holds step := by
    intro step from_
    induction step, from_ using Nat.le_induction with
    | base => exact fun _ => start
    | succ step from_ inductionHypothesis =>
      intro before
      exact (goesOn step from_ (inductionHypothesis (by omega))).resolve_right
        (none step from_ (by omega))
  exact ended (always last after (le_refl last))

/-- A measure that never grows along a sequence does not change any more from some step on. -/
theorem exists_constant {measure : Nat → Nat} (falls : ∀ step, measure (step + 1) ≤ measure step) :
    ∃ last, ∀ step, last ≤ step → measure step = measure last := by
  obtain ⟨last, constant⟩ := WellFoundedLT.antitone_chain_condition (antitone_nat_of_succ_le falls)
  exact ⟨last, fun step after => (constant step after).symm⟩

end JnTapi.Library
