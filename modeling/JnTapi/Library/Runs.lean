/-
This file develops the runs of a partial step function.

A system is a type of states, a type of actions and a step function that gives
the next state, or nothing when the action is not enabled. A run executes a list
of actions. The file gives the composition of runs, the rule that carries an
invariant from the steps to the runs, and the same rule for the runs in which
every step meets a condition on the state it starts from. A run gives out what its
steps give out, and is a run of every abstract system that simulates its steps.
-/

import Mathlib.Data.List.Basic
import Mathlib.Data.List.Induction
import Mathlib.Logic.Relation

namespace JnTapi.Library

variable {State Action : Type*}

/-! ### Runs -/

/-- Executes the actions in order. The result is `none` when one of them is not enabled. -/
def run (step : State → Action → Option State) : List Action → State → Option State
  | [], state => some state
  | action :: rest, state => (step state action).bind (run step rest)

variable {step : State → Action → Option State}

@[simp] theorem run_nil (state : State) : run step [] state = some state := rfl

theorem run_cons (action : Action) (rest : List Action) (state : State) :
    run step (action :: rest) state = (step state action).bind (run step rest) := rfl

theorem run_cons_eq_some {action : Action} {rest : List Action} {state last : State} :
    run step (action :: rest) state = some last ↔
      ∃ next, step state action = some next ∧ run step rest next = some last := by
  rw [run_cons, Option.bind_eq_some_iff]

/-- A run of a concatenation is a run of the first part followed by one of the second. -/
theorem run_append (first second : List Action) (state : State) :
    run step (first ++ second) state = (run step first state).bind (run step second) := by
  induction first generalizing state with
  | nil => rfl
  | cons action rest inductionHypothesis =>
    rw [List.cons_append, run_cons, run_cons, Option.bind_assoc]
    congr 1
    funext next
    exact inductionHypothesis next

theorem run_append_eq_some {first second : List Action} {state last : State} :
    run step (first ++ second) state = some last ↔
      ∃ middle, run step first state = some middle ∧ run step second middle = some last := by
  rw [run_append, Option.bind_eq_some_iff]

/-- An action in the middle of a run starts and ends in states of the run. -/
theorem run_split {first rest : List Action} {action : Action} {state last : State} :
    run step (first ++ action :: rest) state = some last ↔
      ∃ before after, run step first state = some before ∧ step before action = some after ∧
        run step rest after = some last := by
  rw [run_append_eq_some]
  constructor
  · rintro ⟨before, reached, remaining⟩
    obtain ⟨after, stepped, remaining⟩ := run_cons_eq_some.mp remaining
    exact ⟨before, after, reached, stepped, remaining⟩
  · rintro ⟨before, after, reached, stepped, remaining⟩
    exact ⟨before, reached, run_cons_eq_some.mpr ⟨after, stepped, remaining⟩⟩

theorem run_snoc {first : List Action} {action : Action} {state last : State} :
    run step (first ++ [action]) state = some last ↔
      ∃ middle, run step first state = some middle ∧ step middle action = some last := by
  simp [run_append_eq_some, run_cons_eq_some]

/-! ### Invariants -/

/-- What every step preserves, every run preserves. -/
theorem run_invariant {invariant : State → Prop}
    (preserved : ∀ state action next, step state action = some next →
      invariant state → invariant next)
    {actions : List Action} {state last : State} (reached : run step actions state = some last)
    (start : invariant state) : invariant last := by
  induction actions generalizing state with
  | nil =>
    obtain rfl : state = last := Option.some.inj reached
    exact start
  | cons action rest inductionHypothesis =>
    obtain ⟨next, stepped, remaining⟩ := run_cons_eq_some.mp reached
    exact inductionHypothesis remaining (preserved state action next stepped start)

/-- What every step relates, every run relates, for a reflexive and transitive relation. -/
theorem run_related (related : State → State → Prop) (reflexive : ∀ state, related state state)
    (transitive : ∀ {first second third}, related first second → related second third →
      related first third)
    (stepwise : ∀ state action next, step state action = some next → related state next)
    {actions : List Action} {state last : State} (reached : run step actions state = some last) :
    related state last := by
  have preserved : ∀ middle action next, step middle action = some next →
      related state middle → related state next := by
    intro middle action next stepped earlier
    exact transitive earlier (stepwise middle action next stepped)
  exact run_invariant preserved reached (reflexive state)

/-- What holds at first, and what every step of the run preserves, given the actions before it,
the run preserves. -/
theorem run_history {motive : List Action → State → Prop} {state : State}
    (start : motive [] state)
    (preserved : ∀ past middle action next, run step past state = some middle →
      step middle action = some next → motive past middle → motive (past ++ [action]) next)
    {actions : List Action} {last : State} (reached : run step actions state = some last) :
    motive actions last := by
  induction actions using List.reverseRecOn generalizing last with
  | nil =>
    obtain rfl : state = last := Option.some.inj reached
    exact start
  | append_singleton past action inductionHypothesis =>
    obtain ⟨middle, reachedMiddle, stepped⟩ := run_snoc.mp reached
    exact preserved past middle action last reachedMiddle stepped
      (inductionHypothesis reachedMiddle)

/-! ### Runs whose steps meet a condition -/

/-- The condition holds of every action of the run in the state that the action starts from. -/
def Along (step : State → Action → Option State) (condition : State → Action → Prop) :
    List Action → State → Prop
  | [], _ => True
  | action :: rest, state =>
    condition state action ∧ ∀ next, step state action = some next →
      Along step condition rest next

variable {condition : State → Action → Prop}

/-- Whether a condition holds along a run can be found out by executing the run. -/
instance decidableAlong [∀ state action, Decidable (condition state action)] :
    (actions : List Action) → (state : State) → Decidable (Along step condition actions state)
  | [], _ => inferInstanceAs (Decidable True)
  | action :: rest, state =>
    match stepped : step state action with
    | none => decidable_of_iff (condition state action)
        ⟨fun now => ⟨now, fun next other => absurd (stepped.symm.trans other) (by simp)⟩, And.left⟩
    | some next =>
      let tail := decidableAlong rest next
      decidable_of_iff (condition state action ∧ Along step condition rest next)
        ⟨fun both => ⟨both.1, fun other same => by
            obtain rfl : next = other := Option.some.inj (stepped.symm.trans same)
            exact both.2⟩,
          fun along => ⟨along.1, along.2 next stepped⟩⟩

theorem Along.append {first second : List Action} {state middle : State}
    (along : Along step condition (first ++ second) state)
    (reached : run step first state = some middle) :
    Along step condition first state ∧ Along step condition second middle := by
  induction first generalizing state with
  | nil =>
    obtain rfl : state = middle := Option.some.inj reached
    exact ⟨trivial, along⟩
  | cons action rest inductionHypothesis =>
    obtain ⟨next, stepped, remaining⟩ := run_cons_eq_some.mp reached
    have tail := inductionHypothesis (along.2 next stepped) remaining
    refine ⟨⟨along.1, ?_⟩, tail.2⟩
    intro other same
    obtain rfl : next = other := Option.some.inj (stepped.symm.trans same)
    exact tail.1

/-- A condition that holds along two runs, one after the other, holds along both. -/
theorem Along.concat {first second : List Action} {state middle : State}
    (along : Along step condition first state) (reached : run step first state = some middle)
    (later : Along step condition second middle) :
    Along step condition (first ++ second) state := by
  induction first generalizing state with
  | nil =>
    obtain rfl : state = middle := Option.some.inj reached
    exact later
  | cons action rest inductionHypothesis =>
    obtain ⟨next, stepped, remaining⟩ := run_cons_eq_some.mp reached
    refine ⟨along.1, fun other same => ?_⟩
    obtain rfl : next = other := Option.some.inj (stepped.symm.trans same)
    exact inductionHypothesis (along.2 next stepped) remaining

/-- A weaker condition holds along the same run. -/
theorem Along.mono {weaker : State → Action → Prop}
    {actions : List Action} {state : State} (along : Along step condition actions state)
    (weakens : ∀ state action, condition state action → weaker state action) :
    Along step weaker actions state := by
  induction actions generalizing state with
  | nil => trivial
  | cons action rest inductionHypothesis =>
    exact ⟨weakens state action along.1, fun next stepped =>
      inductionHypothesis (along.2 next stepped)⟩

/-- Two conditions hold along a run together. -/
theorem Along.and {other : State → Action → Prop} {actions : List Action} {state : State}
    (left : Along step condition actions state) (right : Along step other actions state) :
    Along step (fun state action => condition state action ∧ other state action) actions state := by
  induction actions generalizing state with
  | nil => trivial
  | cons action rest inductionHypothesis =>
    exact ⟨⟨left.1, right.1⟩, fun next stepped =>
      inductionHypothesis (left.2 next stepped) (right.2 next stepped)⟩

/-- The condition holds of each action in the state that the run has reached before it. -/
theorem Along.at_split {first rest : List Action} {action : Action} {state before : State}
    (along : Along step condition (first ++ action :: rest) state)
    (reached : run step first state = some before) : condition before action :=
  (along.append reached).2.1

/-- A condition that holds of each action in the state that the run has reached before it holds
along the run. -/
theorem along_of_at_split {actions : List Action} {state : State}
    (each : ∀ first action rest before, actions = first ++ action :: rest →
      run step first state = some before → condition before action) :
    Along step condition actions state := by
  induction actions generalizing state with
  | nil => trivial
  | cons action rest inductionHypothesis =>
    refine ⟨each [] action rest state rfl rfl, fun next stepped => ?_⟩
    refine inductionHypothesis fun first other remaining before split reached => ?_
    exact each (action :: first) other remaining before (by rw [split, List.cons_append])
      (run_cons_eq_some.mpr ⟨next, stepped, reached⟩)

/-- What every step that meets the condition preserves, every run of such steps preserves. -/
theorem run_invariant_along {invariant : State → Prop}
    (preserved : ∀ state action next, condition state action → step state action = some next →
      invariant state → invariant next)
    {actions : List Action} {state last : State} (reached : run step actions state = some last)
    (along : Along step condition actions state) (start : invariant state) : invariant last := by
  induction actions generalizing state with
  | nil =>
    obtain rfl : state = last := Option.some.inj reached
    exact start
  | cons action rest inductionHypothesis =>
    obtain ⟨next, stepped, remaining⟩ := run_cons_eq_some.mp reached
    exact inductionHypothesis remaining (along.2 next stepped)
      (preserved state action next along.1 stepped start)

/-- The same for an invariant that also looks at the actions so far. -/
theorem run_history_along {invariant : List Action → State → Prop} {state : State}
    (preserved : ∀ past middle action next, condition middle action →
      step middle action = some next → invariant past middle → invariant (past ++ [action]) next)
    {actions : List Action} {last : State} (reached : run step actions state = some last)
    (along : Along step condition actions state) (start : invariant [] state) :
    invariant actions last := by
  suffices more : ∀ past middle, run step actions middle = some last →
      Along step condition actions middle → invariant past middle →
      invariant (past ++ actions) last from more [] state reached along start
  clear start along reached
  induction actions with
  | nil =>
    intro past middle reached _ before
    obtain rfl : middle = last := Option.some.inj reached
    rw [List.append_nil]
    exact before
  | cons action rest inductionHypothesis =>
    intro past middle reached along before
    obtain ⟨next, stepped, remaining⟩ := run_cons_eq_some.mp reached
    have later := inductionHypothesis (past ++ [action]) next remaining (along.2 next stepped)
      (preserved past middle action next along.1 stepped before)
    rw [List.append_assoc, List.singleton_append] at later
    exact later

/-- A condition that does not look at the state holds along a run when it holds of its
actions. -/
theorem along_of_forall {allowed : Action → Prop} {actions : List Action}
    (each : ∀ action ∈ actions, allowed action) (state : State) :
    Along step (fun _ action => allowed action) actions state := by
  induction actions generalizing state with
  | nil => trivial
  | cons action rest inductionHypothesis =>
    refine ⟨each action List.mem_cons_self, fun next _ => ?_⟩
    exact inductionHypothesis (fun other member => each other (List.mem_cons_of_mem _ member)) next

/-- When a condition on the steps is exactly what keeps the states of a run safe: the steps that meet
it keep an invariant of the safe states, and a step that leads to safe states from the invariant
meets it. -/
theorem safe_iff_along {invariant safe : State → Prop}
    (implies : ∀ state, invariant state → safe state)
    (preserved : ∀ state action next, condition state action → step state action = some next →
      invariant state → invariant next)
    (needed : ∀ state action, invariant state →
      (∀ next, step state action = some next → safe next) → condition state action)
    {state : State} (start : invariant state) (actions : List Action) :
    (∀ taken last, taken <+: actions → run step taken state = some last → safe last) ↔
      Along step condition actions state := by
  induction actions generalizing state with
  | nil =>
    refine iff_of_true ?_ trivial
    intro taken last prefixed reached
    obtain rfl := List.prefix_nil.mp prefixed
    obtain rfl : state = last := Option.some.inj reached
    exact implies state start
  | cons action rest inductionHypothesis =>
    constructor
    · intro safely
      have now : condition state action := by
        refine needed state action start fun next stepped => ?_
        exact safely [action] next ⟨rest, rfl⟩ (run_cons_eq_some.mpr ⟨next, stepped, rfl⟩)
      refine ⟨now, fun next stepped => ?_⟩
      refine (inductionHypothesis (preserved state action next now stepped start)).mp ?_
      intro taken last prefixed reached
      exact safely (action :: taken) last ((List.prefix_cons_inj action).mpr prefixed)
        (run_cons_eq_some.mpr ⟨next, stepped, reached⟩)
    · rintro ⟨now, later⟩ taken last prefixed reached
      cases taken with
      | nil =>
        obtain rfl : state = last := Option.some.inj reached
        exact implies state start
      | cons first taken =>
        obtain ⟨rfl, tail⟩ := List.cons_prefix_cons.mp prefixed
        obtain ⟨next, stepped, remaining⟩ := run_cons_eq_some.mp reached
        have kept := preserved state first next now stepped start
        exact (inductionHypothesis kept).mpr (later next stepped) taken last tail remaining

/-! ### What a run gives out -/

section outputs

variable {Output : Type*} {output : State → Action → List Output}

/-- What the steps of a run give out, in order. -/
def outputs (step : State → Action → Option State) (output : State → Action → List Output) :
    List Action → State → List Output
  | [], _ => []
  | action :: rest, state => output state action ++
    match step state action with
    | some next => outputs step output rest next
    | none => []

theorem outputs_cons {action : Action} {state next : State} (rest : List Action)
    (stepped : step state action = some next) :
    outputs step output (action :: rest) state =
      output state action ++ outputs step output rest next := by
  rw [outputs, stepped]

theorem outputs_append {first : List Action} {state middle : State} (second : List Action)
    (reached : run step first state = some middle) :
    outputs step output (first ++ second) state =
      outputs step output first state ++ outputs step output second middle := by
  induction first generalizing state with
  | nil =>
    obtain rfl : state = middle := Option.some.inj reached
    rfl
  | cons action rest inductionHypothesis =>
    obtain ⟨next, stepped, remaining⟩ := run_cons_eq_some.mp reached
    rw [List.cons_append, outputs_cons _ stepped, outputs_cons _ stepped,
      inductionHypothesis remaining, List.append_assoc]

theorem outputs_snoc {first : List Action} {action : Action} {state middle next : State}
    (reached : run step first state = some middle) (stepped : step middle action = some next) :
    outputs step output (first ++ [action]) state =
      outputs step output first state ++ output middle action := by
  rw [outputs_append [action] reached, outputs_cons [] stepped, outputs, List.append_nil]

/-- What does not depend on the states is given out by the actions. -/
theorem outputs_of_actions (given : Action → List Output) {actions : List Action}
    {state last : State} (reached : run step actions state = some last) :
    outputs step (fun _ action => given action) actions state = actions.flatMap given := by
  induction actions generalizing state with
  | nil => rfl
  | cons action rest inductionHypothesis =>
    obtain ⟨next, stepped, remaining⟩ := run_cons_eq_some.mp reached
    rw [outputs_cons rest stepped, inductionHypothesis remaining, List.flatMap_cons]

end outputs

/-! ### Simulation -/

section simulation

variable {Abstract AbstractAction : Type*}
  {abstractStep : Abstract → AbstractAction → Option Abstract}
  {project : State → Abstract} {translate : State → Action → List AbstractAction}

/-- Each step is a run of the abstract system between the projections of its two states. -/
def Simulates (step : State → Action → Option State)
    (abstractStep : Abstract → AbstractAction → Option Abstract) (project : State → Abstract)
    (translate : State → Action → List AbstractAction) : Prop :=
  ∀ state action next, step state action = some next →
    run abstractStep (translate state action) (project state) = some (project next)

/-- A run is a run of the abstract system between the projections of its two states. -/
theorem Simulates.run (simulates : Simulates step abstractStep project translate)
    {actions : List Action} {state last : State}
    (reached : Library.run step actions state = some last) :
    Library.run abstractStep (outputs step translate actions state) (project state) =
      some (project last) := by
  induction actions generalizing state with
  | nil =>
    obtain rfl : state = last := Option.some.inj reached
    rfl
  | cons action rest inductionHypothesis =>
    obtain ⟨next, stepped, remaining⟩ := run_cons_eq_some.mp reached
    rw [outputs_cons rest stepped]
    exact run_append_eq_some.mpr
      ⟨project next, simulates state action next stepped, inductionHypothesis remaining⟩

end simulation

/-! ### Two runs -/

/-- A run with these visible actions leads from the first state to the second. -/
def Leads (step : State → Action → Option State) (visible : Action → Bool) (seen : List Action)
    (state last : State) : Prop :=
  ∃ actions, actions.filter visible = seen ∧ run step actions state = some last

/-- A run of visible actions leads where it ends. -/
theorem leads_of_visible {visible : Action → Bool} {actions : List Action} {state last : State}
    (each : ∀ action ∈ actions, visible action = true)
    (reached : run step actions state = some last) : Leads step visible actions state last :=
  ⟨actions, List.filter_eq_self.mpr each, reached⟩

/-- What hidden steps of either run keep, and what the same visible step of both keeps, two runs
with the same visible actions keep. -/
theorem leads_related {visible : Action → Bool} {related : State → State → Prop}
    (left : ∀ first second action next, visible action = false →
      step first action = some next → related first second → related next second)
    (right : ∀ first second action next, visible action = false →
      step second action = some next → related first second → related first next)
    (both : ∀ first second action firstNext secondNext, visible action = true →
      step first action = some firstNext → step second action = some secondNext →
      related first second → related firstNext secondNext)
    {seen : List Action} {first second firstLast secondLast : State}
    (firstLeads : Leads step visible seen first firstLast)
    (secondLeads : Leads step visible seen second secondLast)
    (start : related first second) : related firstLast secondLast := by
  obtain ⟨firstActions, firstSeen, firstReached⟩ := firstLeads
  obtain ⟨secondActions, secondSeen, secondReached⟩ := secondLeads
  have same := firstSeen.trans secondSeen.symm
  clear firstSeen secondSeen
  induction firstActions generalizing first second secondActions with
  | nil =>
    obtain rfl : first = firstLast := Option.some.inj firstReached
    induction secondActions generalizing second with
    | nil =>
      obtain rfl : second = secondLast := Option.some.inj secondReached
      exact start
    | cons action rest inductionHypothesis =>
      obtain ⟨next, stepped, remaining⟩ := run_cons_eq_some.mp secondReached
      cases hidden : visible action with
      | true => simp [hidden] at same
      | false =>
        rw [List.filter_cons_of_neg (by simp [hidden])] at same
        exact inductionHypothesis (right _ _ _ _ hidden stepped start) remaining same
  | cons action rest inductionHypothesis =>
    obtain ⟨next, stepped, remaining⟩ := run_cons_eq_some.mp firstReached
    cases hidden : visible action with
    | false =>
      rw [List.filter_cons_of_neg (by simp [hidden])] at same
      exact inductionHypothesis (left _ _ _ _ hidden stepped start) remaining _ secondReached
          same
    | true =>
      rw [List.filter_cons_of_pos hidden] at same
      induction secondActions generalizing second with
      | nil => cases same
      | cons other otherRest otherHypothesis =>
        obtain ⟨otherNext, otherStepped, otherRemaining⟩ := run_cons_eq_some.mp secondReached
        cases otherHidden : visible other with
        | false =>
          rw [List.filter_cons_of_neg (by simp [otherHidden])] at same
          exact otherHypothesis (right _ _ _ _ otherHidden otherStepped start) otherRemaining same
        | true =>
          rw [List.filter_cons_of_pos otherHidden] at same
          obtain ⟨rfl, tail⟩ := List.cons.inj same
          exact inductionHypothesis (both _ _ _ _ _ hidden stepped otherStepped start) remaining
            _ otherRemaining tail

/-! ### What happens in the course of a run -/

/-- The property holds in the first state or in a later state of the run. -/
def Sometimes (step : State → Action → Option State) (holds : State → Prop) :
    List Action → State → Prop
  | [], state => holds state
  | action :: rest, state =>
    holds state ∨ ∃ next, step state action = some next ∧ Sometimes step holds rest next

/-- A step of the run is such an occurrence. -/
def Happens (step : State → Action → Option State) (occurs : State → Action → State → Prop) :
    List Action → State → Prop
  | [], _ => False
  | action :: rest, state => ∃ next, step state action = some next ∧
    (occurs state action next ∨ Happens step occurs rest next)

/-- Each step that triggers is followed by an answer in the rest of the run. -/
def Responds (step : State → Action → Option State) (triggers : State → State → Prop)
    (answers : State → Action → State → Prop) : List Action → State → Prop
  | [], _ => True
  | action :: rest, state => ∀ next, step state action = some next →
    (triggers state next → Happens step answers rest next) ∧
      Responds step triggers answers rest next

variable {occurs : State → Action → State → Prop}

/-- What happens in a run happens between two parts of it. -/
theorem happens_iff {actions : List Action} {state : State} :
    Happens step occurs actions state ↔ ∃ first action rest before after,
      actions = first ++ action :: rest ∧ run step first state = some before ∧
        step before action = some after ∧ occurs before action after := by
  induction actions generalizing state with
  | nil => simp [Happens]
  | cons head tail inductionHypothesis =>
    constructor
    · rintro ⟨next, stepped, now | later⟩
      · exact ⟨[], head, tail, state, next, rfl, rfl, stepped, now⟩
      · obtain ⟨first, action, rest, before, after, rfl, reached, occurrence⟩ :=
          inductionHypothesis.mp later
        exact ⟨head :: first, action, rest, before, after, rfl,
          run_cons_eq_some.mpr ⟨next, stepped, reached⟩, occurrence⟩
    · rintro ⟨first, action, rest, before, after, split, reached, stepped, occurrence⟩
      cases first with
      | nil =>
        obtain rfl : state = before := Option.some.inj reached
        obtain ⟨rfl, rfl⟩ := List.cons.inj split
        exact ⟨after, stepped, Or.inl occurrence⟩
      | cons other first =>
        obtain ⟨rfl, rfl⟩ := List.cons.inj split
        obtain ⟨next, first_, remaining⟩ := run_cons_eq_some.mp reached
        exact ⟨next, first_, Or.inr (inductionHypothesis.mpr
          ⟨first, action, rest, before, after, rfl, remaining, stepped, occurrence⟩)⟩

/-- Every trigger is answered if the one between the states after so many actions and after one
more is, whatever their number. -/
theorem responds_of_take {triggers : State → State → Prop} {answers : State → Action → State → Prop}
    {actions : List Action} {state : State}
    (answered : ∀ count < actions.length, ∀ before after,
      run step (actions.take count) state = some before →
      run step (actions.take (count + 1)) state = some after → triggers before after →
        Happens step answers (actions.drop (count + 1)) after) :
    Responds step triggers answers actions state := by
  induction actions generalizing state with
  | nil => trivial
  | cons action rest inductionHypothesis =>
    intro next stepped
    have extend : ∀ count, run step ((action :: rest).take (count + 1)) state =
        run step (rest.take count) next := by
      intro count
      rw [List.take_succ_cons, run_cons, stepped]
      rfl
    refine ⟨answered 0 (Nat.succ_pos _) state next rfl ((extend 0).trans rfl),
      inductionHypothesis fun count less before after toBefore toAfter => ?_⟩
    exact answered (count + 1) (Nat.succ_lt_succ less) before after ((extend count).trans toBefore)
      ((extend (count + 1)).trans toAfter)

/-- A property that holds at some time, and whose every beginning is answered, holds at first or
is answered. -/
theorem Sometimes.answered {holds : State → Prop} {actions : List Action} {state : State}
    (sometime : Sometimes step holds actions state)
    (responds : Responds step (fun before after => ¬ holds before ∧ holds after) occurs actions
      state) : holds state ∨ Happens step occurs actions state := by
  induction actions generalizing state with
  | nil => exact Or.inl sometime
  | cons action rest inductionHypothesis =>
    rcases sometime with now | ⟨next, stepped, later⟩
    · exact Or.inl now
    · obtain ⟨answered, remaining⟩ := responds next stepped
      by_cases first : holds state
      · exact Or.inl first
      · rcases inductionHypothesis later remaining with begins | happens
        · exact Or.inr ⟨next, stepped, Or.inr (answered ⟨first, begins⟩)⟩
        · exact Or.inr ⟨next, stepped, Or.inr happens⟩

end JnTapi.Library
