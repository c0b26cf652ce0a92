/-
This file proves when the observers of the calls are told about the end of a call
although sessions come and go.

Whatever the login machine does leaves the register of the calls as it is. The
removal of all call handlers by `Start` and `Cleanup` reports nothing, so it
leaves no call behind only when there is none.
-/

import JnTapi.Call.Notifications
import JnTapi.Init.Facts
import JnTapi.OnSipXmpp

namespace JnTapi

open Library

/-- What the object does besides the calls keeps the register of the calls. -/
theorem CallSystem.Coherent.unchanged {since : Nat} {system : CallSystem} {xmpp : Xmpp}
    (coherent : CallSystem.Coherent since system) (unchanged : system.xmpp.CallsUnchanged xmpp) :
    CallSystem.Coherent since { system with xmpp := xmpp } :=
  ⟨coherent.ledger.unchanged unchanged, coherent.requests⟩

namespace OnSipXmpp

/-! ### What one step does to the calls -/

theorem callsUnchanged_pollInit (readings : StateMachineBase.PollReadings) (object : OnSipXmpp) :
    object.xmpp.CallsUnchanged (object.pollInit readings).xmpp :=
  initVirtuals_callsUnchanged.pollMachine readings object.initStateMachine object.xmpp

theorem callsUnchanged_initSignal (readings : Readings) (event : XmppEvent)
    (object : OnSipXmpp) : object.xmpp.CallsUnchanged (object.initStateMachine.signalEvent
      initVirtuals readings event false object.xmpp).2.2 :=
  initVirtuals_callsUnchanged.signalEvent readings event false
    object.initStateMachine.stateHandlers object.xmpp

/-- An event that the login machine does not handle is signalled to the call machine, and is
deleted when nobody knows it. -/
theorem calls_signalCalls (readings : Readings) (event : XmppEvent) (object : OnSipXmpp) :
    ∃ xmpp, (object.calls.signal readings event false).xmpp.Quiet xmpp ∧
      (object.signalCalls readings event).calls =
        { object.calls.signal readings event false with xmpp := xmpp } := by
  unfold signalCalls
  split
  case h_1 next signalled =>
    refine ⟨_, Xmpp.Quiet.refl _, ?_⟩
    rw [CallSystem.signal]
    show object.calls.withHandlers next = object.calls.withHandlers
      (StateMachine.signalEvent callVirtuals readings event false object.calls.stateHandlers
        object.xmpp).2
    rw [signalled]
  case h_2 handlers xmpp signalled =>
    have same : object.calls.signal readings event false =
        object.calls.withHandlers (handlers, xmpp) := by
      rw [CallSystem.signal]
      show object.calls.withHandlers (StateMachine.signalEvent callVirtuals readings event false
        object.calls.stateHandlers object.xmpp).2 = _
      rw [signalled]
    rw [same]
    exact ⟨xmpp.deleteEvent event, Xmpp.quiet_deleteEvent event xmpp, rfl⟩

/-- The removal of all handlers removes those of the calls silently. -/
theorem calls_removeStateHandlers (object : OnSipXmpp) :
    ∃ xmpp, object.xmpp.Quiet xmpp ∧
      object.removeStateHandlers.calls = object.calls.withHandlers ([], xmpp) := by
  refine ⟨_, CallHandler.quiet_removeStateHandlers object.calls.stateHandlers object.xmpp, ?_⟩
  unfold removeStateHandlers StateMachineBase.removeStateHandlers
  rw [removeStateHandlers_initVirtuals]
  rfl

theorem draws_removeStateHandlers (object : OnSipXmpp) :
    object.xmpp.ids.draws ≤ object.removeStateHandlers.xmpp.ids.draws := by
  obtain ⟨xmpp, quiet, same⟩ := calls_removeStateHandlers object
  show _ ≤ object.removeStateHandlers.calls.xmpp.ids.draws
  rw [same]
  exact quiet.draws

/-- No step takes an id back. -/
theorem draws_step {object next : OnSipXmpp} {action : Action}
    (stepped : object.step action = some next) :
    object.xmpp.ids.draws ≤ next.xmpp.ids.draws := by
  cases action with
  | call action =>
    obtain ⟨-, calls, called, rfl⟩ := step_call.mp stepped
    exact CallSystem.draws_step called
  | pollInit readings =>
    obtain ⟨-, rfl⟩ := whenIdle_eq_some.mp stepped
    exact (callsUnchanged_pollInit readings object).draws
  | signal initReadings callReadings event =>
    obtain ⟨-, rfl⟩ := whenIdle_eq_some.mp stepped
    have first := (callsUnchanged_initSignal initReadings event object).draws
    rcases object.signalEvent_cases initReadings callReadings event with
      ⟨-, result⟩ | ⟨-, result⟩
    · rw [result]
      exact first
    · generalize (object.initStateMachine.signalEvent initVirtuals initReadings event false
        object.xmpp).2 = next at first result
      obtain ⟨xmpp, quiet, same⟩ :=
        calls_signalCalls callReadings event (object.withInit next)
      rw [result, show (OnSipXmpp.signalCalls _ _ _).xmpp = xmpp from congrArg CallSystem.xmpp same]
      have signalled := callVirtuals_draws.signalEvent callReadings event false
        object.calls.stateHandlers next.2
      exact first.trans (signalled.trans quiet.draws)
  | start reading loginInfo =>
    obtain ⟨-, rfl⟩ := whenIdle_eq_some.mp stepped
    exact draws_removeStateHandlers object
  | cleanup =>
    obtain ⟨-, rfl⟩ := whenIdle_eq_some.mp stepped
    exact draws_removeStateHandlers object
  | _ =>
    obtain ⟨-, rfl⟩ := whenIdle_eq_some.mp stepped
    exact le_refl _

/-- `Start` and `Cleanup` find no handler in the call machine. -/
def NoCallRemoved (object : OnSipXmpp) : Action → Prop
  | .start _ _ | .cleanup => object.calls.stateHandlers = []
  | _ => True

instance (object : OnSipXmpp) (action : Action) : Decidable (object.NoCallRemoved action) :=
  match action with
  | .start _ _ | .cleanup => inferInstanceAs (Decidable (object.calls.stateHandlers = []))
  | .call _ | .pollInit _ | .resetConnectLoop _ | .signal _ _ _ | .workerReply _ _
  | .workerMessage _ | .asyncShutdown | .getInitEvents | .getCallEvents => instDecidableTrue

/-- Removing no handlers keeps the register. -/
theorem coherent_removeStateHandlers {since : Nat} {object : OnSipXmpp}
    (coherent : CallSystem.Coherent since object.calls) (none : object.calls.stateHandlers = []) :
    CallSystem.Coherent since object.removeStateHandlers.calls := by
  obtain ⟨xmpp, quiet, same⟩ := calls_removeStateHandlers object
  rw [same]
  have ledger := coherent.ledger.quiet quiet
  rw [none] at ledger
  exact ⟨ledger, coherent.requests⟩

/-- Every step keeps the calls coherent, as long as the ids do not wrap. -/
theorem coherent_step {since : Nat} {object next : OnSipXmpp} {action : Action}
    (noneRemoved : object.NoCallRemoved action) (stepped : object.step action = some next)
    (coherent : CallSystem.Coherent since object.calls)
    (bound : next.xmpp.ids.draws < 2 ^ 32 - 1) : CallSystem.Coherent since next.calls := by
  cases action with
  | call action =>
    obtain ⟨outside, calls, called, rfl⟩ := step_call.mp stepped
    refine CallSystem.Coherent.step called coherent (fun removal => ?_) bound
    rw [removal] at outside
    cases outside
  | pollInit readings =>
    obtain ⟨-, rfl⟩ := whenIdle_eq_some.mp stepped
    exact coherent.unchanged (callsUnchanged_pollInit readings object)
  | signal initReadings callReadings event =>
    obtain ⟨idle, rfl⟩ := whenIdle_eq_some.mp stepped
    have first := callsUnchanged_initSignal initReadings event object
    rcases object.signalEvent_cases initReadings callReadings event with
      ⟨-, result⟩ | ⟨-, result⟩
    · rw [result]
      exact coherent.unchanged first
    · generalize (object.initStateMachine.signalEvent initVirtuals initReadings event false
        object.xmpp).2 = next at first result
      obtain ⟨xmpp, quiet, same⟩ :=
        calls_signalCalls callReadings event (object.withInit next)
      rw [result, OnSipXmpp.xmpp, same] at bound
      rw [result, same]
      have before : CallSystem.Coherent since (object.withInit next).calls :=
        coherent.unchanged first
      have called : (object.withInit next).calls.step (.signalEvent callReadings event false) =
          some _ :=
        CallSystem.step_signalEvent.mpr ⟨idle, rfl⟩
      have signalled := CallSystem.Coherent.step called before
        (fun removal => by cases removal) (lt_of_le_of_lt quiet.draws bound)
      exact signalled.unchanged quiet.callsUnchanged
  | start reading loginInfo =>
    obtain ⟨-, rfl⟩ := whenIdle_eq_some.mp stepped
    refine (coherent_removeStateHandlers coherent noneRemoved).unchanged ?_
    exact ⟨le_refl _, rfl⟩
  | cleanup =>
    obtain ⟨-, rfl⟩ := whenIdle_eq_some.mp stepped
    exact coherent_removeStateHandlers coherent noneRemoved
  | getInitEvents =>
    obtain ⟨-, rfl⟩ := whenIdle_eq_some.mp stepped
    exact coherent.unchanged ⟨le_refl _, rfl⟩
  | getCallEvents =>
    obtain ⟨-, rfl⟩ := whenIdle_eq_some.mp stepped
    exact coherent.unchanged ⟨le_refl _, rfl⟩
  | _ =>
    obtain ⟨-, rfl⟩ := whenIdle_eq_some.mp stepped
    exact coherent

/-! ### Whole runs -/

theorem coherent_of_run {reading : Reading} {actions : List Action} {object : OnSipXmpp}
    (reached : run OnSipXmpp.step actions (OnSipXmpp.new reading) = some object)
    (noneRemoved : Along OnSipXmpp.step NoCallRemoved actions (OnSipXmpp.new reading))
    (bound : object.xmpp.ids.draws < 2 ^ 32 - 1) : CallSystem.Coherent 0 object.calls := by
  have preserved : ∀ earlier action next, NoCallRemoved earlier action →
      OnSipXmpp.step earlier action = some next →
      (earlier.xmpp.ids.draws < 2 ^ 32 - 1 → CallSystem.Coherent 0 earlier.calls) →
      next.xmpp.ids.draws < 2 ^ 32 - 1 → CallSystem.Coherent 0 next.calls := by
    intro earlier action next allowed stepped inductionHypothesis small
    have coherent := inductionHypothesis (lt_of_le_of_lt (draws_step stepped) small)
    exact coherent_step allowed stepped coherent small
  exact run_invariant_along preserved reached noneRemoved
    (fun _ => CallSystem.Coherent.new ⟨[], [], []⟩) bound

/-- The call has been reported, and no handler in the call machine has its id. -/
def Orphaned (callId : Long) (object : OnSipXmpp) : Prop :=
  callNotificationsOf callId object.xmpp.effects ≠ [] ∧
    ∀ handler ∈ object.calls.stateHandlers, handler.callId ≠ callId

/-- The last that was said of the call is that it is dropped. -/
def LastDropped (callId : Long) (object : OnSipXmpp) : Prop :=
  ∃ last ∈ (callNotificationsOf callId object.xmpp.effects).getLast?, last.state = .dropped

instance (callId : Long) (object : OnSipXmpp) : Decidable (object.LastDropped callId) := by
  unfold LastDropped
  infer_instance

/-- In every run whose ids have not wrapped and in which each `Start` and `Cleanup` finds the call
machine empty, a reported call whose handler is gone was last reported as dropped. -/
theorem lastDropped_of_orphaned {reading : Reading} {actions : List Action} {object : OnSipXmpp}
    (reached : run OnSipXmpp.step actions (OnSipXmpp.new reading) = some object)
    (noneRemoved : Along OnSipXmpp.step NoCallRemoved actions (OnSipXmpp.new reading))
    (bound : object.xmpp.ids.draws < 2 ^ 32 - 1) {callId : Long}
    (orphaned : object.Orphaned callId) : object.LastDropped callId := by
  have ledger := (coherent_of_run reached noneRemoved bound).ledger
  rcases ledger.ended orphaned.2 with silent | ⟨earlier, last, split, -, -, dropped⟩
  · exact absurd silent orphaned.1
  · refine ⟨last, ?_, dropped⟩
    show (callNotificationsOf callId object.calls.xmpp.effects).getLast? = some last
    rw [split, List.getLast?_append]
    rfl

end OnSipXmpp

/-! ### Concrete runs -/

namespace Example

open OnSipXmpp

/-- A call rings while the connection is lost, and a new session begins. -/
def ringAndReconnect : List Action :=
  logIn ++ [signalAt 400 (activeCall "a" "call" .requested), signalAt 500 (.connectFactory false),
    .start (reading 30000) login]

/-- A call rings and ends before the connection is lost, and a new session begins. -/
def hangUpAndReconnect : List Action :=
  logIn ++ [signalAt 400 (activeCall "a" "call" .requested), signalAt 450 (retract "a"),
    signalAt 500 (.connectFactory false), .start (reading 30000) login]

end Example

namespace OnSipXmpp

/-- The ringing call is gone, and it was last reported as offering. -/
theorem lastDropped_ringAndReconnect :
    ¬ ∀ (reading : Reading) (actions : List Action) (object : OnSipXmpp) (callId : Long),
      run OnSipXmpp.step actions (OnSipXmpp.new reading) = some object →
      object.Orphaned callId → object.LastDropped callId := by
  intro claim
  have reached : run OnSipXmpp.step Example.ringAndReconnect (OnSipXmpp.new (Example.reading 0)) =
    some _ := rfl
  have dropped := claim _ _ _ 2 reached ⟨by decide, by decide⟩
  revert dropped
  decide

theorem lastDropped_hangUpAndReconnect :
    ∃ object, run OnSipXmpp.step Example.hangUpAndReconnect (OnSipXmpp.new (Example.reading 0)) =
        some object ∧ object.Orphaned 2 ∧ object.LastDropped 2 := by
  have reached : run OnSipXmpp.step Example.hangUpAndReconnect
    (OnSipXmpp.new (Example.reading 0)) = some _ := rfl
  exact ⟨_, reached, ⟨by decide, by decide⟩,
    lastDropped_of_orphaned reached (by decide) (by decide) ⟨by decide, by decide⟩⟩

end OnSipXmpp

end JnTapi
