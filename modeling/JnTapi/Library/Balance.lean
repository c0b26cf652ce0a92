/-
This file develops the books of a run: an amount in each state, and what each action
brings in.

When a condition says exactly which steps keep the amount and what comes in equal,
it says exactly which runs do so in all their states.
-/

import Mathlib.Algebra.BigOperators.Group.List.Basic
import JnTapi.Library.Runs

namespace JnTapi.Library

variable {State Action Amount : Type*} {step : State → Action → Option State}

/-- The last amount is the first one and what the actions have brought in. -/
def Balances [AddMonoid Amount] (amount : State → Amount) (given : Action → Amount)
    (actions : List Action) (state last : State) : Prop :=
  amount last = amount state + (actions.map given).sum

section balances

variable [AddMonoid Amount] {amount : State → Amount} {given : Action → Amount}

theorem Balances.nil (state : State) : Balances amount given [] state state :=
  (add_zero _).symm

theorem balances_snoc {first : List Action} {action : Action} {state middle last : State}
    (balances : Balances amount given first state middle) :
    Balances amount given (first ++ [action]) state last ↔
      amount last = amount middle + given action := by
  rw [Balances, List.map_append, List.sum_append, List.map_singleton, List.sum_singleton,
    ← add_assoc, ← balances]

end balances

/-- The books of a run balance in all its states if and only if each of its steps meets the
condition. -/
theorem balances_iff_along [AddMonoid Amount] {amount : State → Amount} {given : Action → Amount}
    {invariant : State → Prop} {condition : State → Action → Prop}
    (preserved : ∀ state action next, step state action = some next →
      invariant state → invariant next)
    (exactly : ∀ state action next, invariant state → step state action = some next →
      (amount next = amount state + given action ↔ condition state action))
    {actions : List Action} {state last : State} (start : invariant state)
    (reached : run step actions state = some last) :
    (∀ first rest middle, actions = first ++ rest → run step first state = some middle →
      Balances amount given first state middle) ↔ Along step condition actions state := by
  constructor
  · intro always
    refine along_of_at_split fun first action rest before split toBefore => ?_
    subst split
    obtain ⟨again, after, toAgain, stepped, -⟩ := run_split.mp reached
    obtain rfl : again = before := Option.some.inj (toAgain.symm.trans toBefore)
    have now := always first (action :: rest) again rfl toAgain
    have next := always (first ++ [action]) rest after (by simp)
      (run_snoc.mpr ⟨again, toAgain, stepped⟩)
    exact (exactly again action after (run_invariant preserved toAgain start) stepped).mp
      ((balances_snoc now).mp next)
  · rintro along first rest middle rfl toMiddle
    have both := @run_history_along _ _ step condition (fun past other =>
      invariant other ∧ Balances amount given past state other) state ?_ _ _ toMiddle
      (along.append toMiddle).1 ⟨start, .nil state⟩
    · exact both.2
    · rintro past middle action next meets stepped ⟨holds, balances⟩
      exact ⟨preserved middle action next stepped holds,
        (balances_snoc balances).mpr ((exactly middle action next holds stepped).mpr meets)⟩

end JnTapi.Library
