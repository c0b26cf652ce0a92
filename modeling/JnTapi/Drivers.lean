/-
This file proves how many handlers drive the login.

`Start` clears the list of the login machine, but its new handler travels through
the queue of requests, which only a poll empties. A `Start` that finds the queue
empty leaves its own handler as the only one, and no other step adds a handler.
-/

import JnTapi.OnSipXmpp
import JnTapi.Init.Facts

namespace JnTapi

open Library

namespace OnSipXmpp

/-- The session begins with this action. -/
def Action.isStart : Action → Bool
  | .start _ _ => true
  | _ => false

/-- The drivers after a `Start` are those that waited in the queue, and its own. -/
theorem drivers_start (reading : Reading) (loginInfo : LoginInfo) (object : OnSipXmpp) :
    (object.start reading loginInfo).drivers =
      object.initStateMachine.handlerRequests ++ [InitStateHandler.new reading] := rfl

theorem drivers_signalEvent (initReadings callReadings : Readings) (event : XmppEvent)
    (object : OnSipXmpp) : Descends InitStateHandler.Evolves object.drivers
      (object.signalEvent initReadings callReadings event).drivers := by
  have signalled := initVirtuals_evolves.signalEvent initReadings event false
    object.initStateMachine.stateHandlers object.xmpp
  unfold drivers
  rw [initStateMachine_signalEvent]
  exact signalled.append (initVirtuals_evolves.descends_refl _)

theorem drivers_workerReply (index : Nat) (event : Option XmppEvent) (object : OnSipXmpp) :
    Descends InitStateHandler.Evolves object.drivers (object.workerReply index event).drivers := by
  have replied : Descends InitStateHandler.Evolves object.initStateMachine.stateHandlers
      (object.initStateMachine.stateHandlers.modify index (·.handleIqID event)) := by
    generalize object.initStateMachine.stateHandlers = handlers
    induction handlers generalizing index with
    | nil =>
      rw [List.modify_nil]
      exact .nil
    | cons handler rest inductionHypothesis =>
      cases index with
      | zero =>
        have moved := InitStateHandler.Moves.handleIqID event handler
        exact .cons (.single moved) (initVirtuals_evolves.descends_refl rest)
      | succ index => exact .cons .refl (inductionHypothesis index)
  exact replied.append (initVirtuals_evolves.descends_refl _)

theorem drivers_workerMessage (event : XmppEvent) (object : OnSipXmpp) :
    Descends InitStateHandler.Evolves object.drivers (object.workerMessage event).drivers := by
  have seen : Descends InitStateHandler.Evolves object.initStateMachine.stateHandlers
      (object.initStateMachine.stateHandlers.map (·.handleMessage event)) := by
    induction object.initStateMachine.stateHandlers with
    | nil => exact .nil
    | cons handler rest inductionHypothesis =>
      have moved := InitStateHandler.Moves.handleMessage event handler
      exact .cons (.single moved) inductionHypothesis
  exact seen.append (initVirtuals_evolves.descends_refl _)

theorem drivers_cleanup (object : OnSipXmpp) :
    Descends InitStateHandler.Evolves object.drivers object.cleanup.drivers := by
  have none : Descends InitStateHandler.Evolves object.initStateMachine.stateHandlers [] := .nil
  exact none.append (initVirtuals_evolves.descends_refl _)

/-- Every step but `Start` only moves the drivers on, or removes them. -/
theorem drivers_step {object next : OnSipXmpp} {action : Action}
    (stepped : object.step action = some next) (noStart : action.isStart = false) :
    Descends InitStateHandler.Evolves object.drivers next.drivers := by
  have same := initVirtuals_evolves.descends_refl object.drivers
  cases action with
  | call action =>
    obtain ⟨-, calls, -, rfl⟩ := step_call.mp stepped
    exact same
  | pollInit readings =>
    obtain ⟨-, rfl⟩ := whenIdle_eq_some.mp stepped
    exact initVirtuals_evolves.pollMachine readings object.initStateMachine object.xmpp
  | resetConnectLoop reading =>
    obtain ⟨-, rfl⟩ := whenIdle_eq_some.mp stepped
    exact same
  | signal initReadings callReadings event =>
    obtain ⟨-, rfl⟩ := whenIdle_eq_some.mp stepped
    exact drivers_signalEvent initReadings callReadings event object
  | workerReply index event =>
    obtain ⟨-, rfl⟩ := whenIdle_eq_some.mp stepped
    exact drivers_workerReply index event object
  | workerMessage event =>
    obtain ⟨-, rfl⟩ := whenIdle_eq_some.mp stepped
    exact drivers_workerMessage event object
  | start reading loginInfo => cases noStart
  | asyncShutdown =>
    obtain ⟨-, rfl⟩ := whenIdle_eq_some.mp stepped
    exact same
  | cleanup =>
    obtain ⟨-, rfl⟩ := whenIdle_eq_some.mp stepped
    exact drivers_cleanup object
  | getInitEvents =>
    obtain ⟨-, rfl⟩ := whenIdle_eq_some.mp stepped
    exact same
  | getCallEvents =>
    obtain ⟨-, rfl⟩ := whenIdle_eq_some.mp stepped
    exact same

/-! ### Whole runs -/

/-- `Start` finds no handler of the login in the queue. -/
def QueueEmptyAtStart (object : OnSipXmpp) : Action → Prop
  | .start _ _ => object.initStateMachine.handlerRequests = []
  | _ => True

instance (object : OnSipXmpp) (action : Action) : Decidable (object.QueueEmptyAtStart action) := by
  unfold QueueEmptyAtStart
  cases action <;> infer_instance

/-- The handler is what the handler that the last `Start` created has become. -/
def DrivesOwnSession (actions : List Action) (handler : InitStateHandler) : Prop :=
  ∃ earlier reading loginInfo later, actions = earlier ++ .start reading loginInfo :: later ∧
    (∀ action ∈ later, action.isStart = false) ∧
    InitStateHandler.Evolves (InitStateHandler.new reading) handler

/-- There is at most one driver, and it drives the session that has created it. -/
def OwnDriver (actions : List Action) (object : OnSipXmpp) : Prop :=
  object.drivers.length ≤ 1 ∧ ∀ handler ∈ object.drivers, DrivesOwnSession actions handler

theorem OwnDriver.step {past : List Action} {object next : OnSipXmpp} {action : Action}
    (queueEmpty : object.QueueEmptyAtStart action) (stepped : object.step action = some next)
    (own : OwnDriver past object) : OwnDriver (past ++ [action]) next := by
  by_cases starts : action.isStart
  · cases action with
    | start reading loginInfo =>
      obtain ⟨-, rfl⟩ := whenIdle_eq_some.mp stepped
      have none : object.initStateMachine.handlerRequests = [] := queueEmpty
      rw [OwnDriver, drivers_start, none, List.nil_append]
      refine ⟨le_refl _, fun handler member => ?_⟩
      refine ⟨past, reading, loginInfo, [], rfl, fun _ absent => absurd absent List.not_mem_nil, ?_⟩
      rw [List.mem_singleton.mp member]
    | _ => cases starts
  · have noStart : action.isStart = false := by simpa using starts
    have descends := drivers_step stepped noStart
    refine ⟨descends.length_le.trans own.1, fun handler member => ?_⟩
    obtain ⟨earlier, inside, evolves⟩ := descends.exists_of_mem member
    obtain ⟨before, reading, loginInfo, later, rfl, noOther, own⟩ := own.2 earlier inside
    refine ⟨before, reading, loginInfo, later ++ [action], ?_, ?_, own.trans evolves⟩
    · rw [List.append_assoc, List.cons_append]
    · intro other among
      rcases List.mem_append.mp among with old | last
      · exact noOther other old
      · rw [List.mem_singleton.mp last]
        exact noStart

/-- In the course of a run there is never more than one driver, and it always drives the session
that has created it, if and only if every `Start` of the run finds the queue of the login machine
empty. -/
theorem ownDriver_iff {reading : Reading} {actions : List Action} {object : OnSipXmpp}
    (reached : run OnSipXmpp.step actions (OnSipXmpp.new reading) = some object) :
    (∀ first rest middle, actions = first ++ rest →
      run OnSipXmpp.step first (OnSipXmpp.new reading) = some middle → OwnDriver first middle) ↔
    Along OnSipXmpp.step QueueEmptyAtStart actions (OnSipXmpp.new reading) := by
  constructor
  · intro always
    refine along_of_at_split fun first action rest before split toBefore => ?_
    cases action with
    | start tick loginInfo =>
      subst split
      obtain ⟨again, after, toAgain, stepped, -⟩ := run_split.mp reached
      obtain rfl : again = before := Option.some.inj (toAgain.symm.trans toBefore)
      have own := always (first ++ [.start tick loginInfo]) rest after (by simp)
        (run_append_eq_some.mpr ⟨again, toAgain, run_cons_eq_some.mpr ⟨after, stepped, rfl⟩⟩)
      obtain ⟨-, rfl⟩ := whenIdle_eq_some.mp stepped
      have atMostOne := own.1
      rw [drivers_start, List.length_append, List.length_singleton] at atMostOne
      exact List.eq_nil_of_length_eq_zero (by omega)
    | _ => trivial
  · rintro along first rest middle rfl toMiddle
    refine run_history_along (fun _ _ _ _ queueEmpty stepped own => own.step queueEmpty stepped)
      toMiddle (along.append toMiddle).1 ?_
    exact ⟨Nat.zero_le _, fun _ member => absurd member List.not_mem_nil⟩

end OnSipXmpp

/-! ### Concrete runs -/

namespace Example

open OnSipXmpp

/-- A session ends with the connection, and the next two attempts to begin one fail to connect. -/
def reconnectTwice : List Action :=
  logIn ++ [signalAt 400 (.connectFactory false), .start (reading 30000) login,
    .start (reading 60000) login]

/-- A session ends with the connection, and the next one begins. -/
def reconnect : List Action :=
  logIn ++ [signalAt 400 (.connectFactory false), .start (reading 30000) login] ++ pollBoth 30250

end Example

namespace OnSipXmpp

/-- After the second failure two handlers wait for the next session. -/
theorem ownDriver_reconnectTwice :
    ¬ ∀ (reading : Reading) (actions : List Action) (object : OnSipXmpp),
      run OnSipXmpp.step actions (OnSipXmpp.new reading) = some object →
      OwnDriver actions object := by
  intro claim
  have reached : run OnSipXmpp.step Example.reconnectTwice (OnSipXmpp.new (Example.reading 0)) =
    some _ := rfl
  have atMostOne := (claim _ _ _ reached).1
  revert atMostOne
  decide

theorem ownDriver_reconnect :
    ∃ object, run OnSipXmpp.step Example.reconnect (OnSipXmpp.new (Example.reading 0)) =
        some object ∧ OwnDriver Example.reconnect object ∧ object.drivers.length = 1 := by
  have reached : run OnSipXmpp.step Example.reconnect (OnSipXmpp.new (Example.reading 0)) =
    some _ := rfl
  refine ⟨_, reached, ?_, by decide⟩
  exact (ownDriver_iff reached).mpr (by decide) Example.reconnect [] _ (by simp) reached

end OnSipXmpp

end JnTapi
