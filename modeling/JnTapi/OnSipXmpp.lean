/-
This file models the `OnSipXmpp` object: its two state machines, the events that
the connection signals to them, and the start and the end of a session.

The login machine is used by the polling thread alone, so one poll of it is one
step; the steps of the call machine are those of its own system. Everything but
the calls of other threads happens while the polling thread stands outside of the
poll of the call machine. An attempt to connect may signal events at once; they
are steps of their own after `Start`.
-/

import JnTapi.Library.Runs
import JnTapi.Stanzas
import JnTapi.Init.Handler
import JnTapi.Call.System

namespace JnTapi

/-- `OnSipXmpp` -/
structure OnSipXmpp where
  /-- `m_initStateMachine` -/
  initStateMachine : StateMachineBase InitStateHandler XmppEvent
  /-- `m_callStateMachine` with the threads that use it, and what the handlers of both machines
  share -/
  calls : CallSystem
  tmrConnectLoop : TimeOut
deriving DecidableEq, Repr

namespace OnSipXmpp

/-- `OnSipXmpp()` -/
def new (reading : Reading) : OnSipXmpp :=
  ⟨StateMachineBase.new, CallSystem.new ⟨[], [], []⟩, TimeOut.new reading 250⟩

/-- What the handlers of both machines share. -/
def xmpp (object : OnSipXmpp) : Xmpp := object.calls.xmpp

/-- The object with another login machine, and what its call has left -/
def withInit (object : OnSipXmpp) (next : StateMachineBase InitStateHandler XmppEvent × Xmpp) :
    OnSipXmpp :=
  { object with initStateMachine := next.1, calls := { object.calls with xmpp := next.2 } }

/-! ### The polling thread -/

/-- `m_initStateMachine->PollStateHandlers()` in `OnSipXmpp::onConnectLoop` -/
def pollInit (readings : StateMachineBase.PollReadings) (object : OnSipXmpp) : OnSipXmpp :=
  object.withInit (object.initStateMachine.pollStateHandlers initVirtuals readings object.xmpp)

/-- `_tmrConnectLoop.Reset()` -/
def resetConnectLoop (reading : Reading) (object : OnSipXmpp) : OnSipXmpp :=
  { object with tmrConnectLoop := object.tmrConnectLoop.reset reading }

/-- The part of `OnSipXmpp::_signalEvent` after the login machine, which did not handle the
event -/
def signalCalls (readings : Readings) (event : XmppEvent) (object : OnSipXmpp) : OnSipXmpp :=
  match StateMachine.signalEvent callVirtuals readings event false object.calls.stateHandlers
    object.xmpp with
  | (true, next) => { object with calls := object.calls.withHandlers next }
  | (false, handlers, xmpp) =>
    { object with calls := object.calls.withHandlers (handlers, xmpp.deleteEvent event) }

/-- `OnSipXmpp::_signalEvent` -/
def signalEvent (initReadings callReadings : Readings) (event : XmppEvent) (object : OnSipXmpp) :
    OnSipXmpp :=
  match object.initStateMachine.signalEvent initVirtuals initReadings event false object.xmpp with
  | (true, next) => object.withInit next
  | (false, next) => (object.withInit next).signalCalls callReadings event

/-- `OnSipXmpp::handleIqID` -/
def handleIqID (initReadings callReadings : Readings) (iq : IQ) (context : Long)
    (object : OnSipXmpp) : Except UndefinedRead OnSipXmpp := do
  match ← XmppEventFactory.iqFactory iq context with
  | some event => return object.signalEvent initReadings callReadings event
  | none => return object

/-- `OnSipXmpp::handleMessage` -/
def handleMessage (initReadings callReadings : Readings) (msg : Message) (object : OnSipXmpp) :
    Except UndefinedRead OnSipXmpp := do
  match ← XmppEventFactory.msgFactory msg with
  | some event => return object.signalEvent initReadings callReadings event
  | none => return object

/-- The reply to a renewal reaches the worker of the handler at the position. -/
def workerReply (index : Nat) (event : Option XmppEvent) (object : OnSipXmpp) : OnSipXmpp :=
  { object with initStateMachine := { object.initStateMachine with
      stateHandlers := object.initStateMachine.stateHandlers.modify index (·.handleIqID event) } }

/-- A message reaches the workers of the handlers. -/
def workerMessage (event : XmppEvent) (object : OnSipXmpp) : OnSipXmpp :=
  { object with initStateMachine := { object.initStateMachine with
      stateHandlers := object.initStateMachine.stateHandlers.map (·.handleMessage event) } }

/-- The removal of the handlers of both machines in `OnSipXmpp::Start` and
`OnSipXmpp::Cleanup` -/
def removeStateHandlers (object : OnSipXmpp) : OnSipXmpp :=
  let object :=
    object.withInit (object.initStateMachine.removeStateHandlers initVirtuals object.xmpp)
  { object with
    calls := object.calls.withHandlers
      (StateMachine.removeStateHandlers callVirtuals object.calls.stateHandlers object.xmpp) }

/-- `OnSipXmpp::Start`, up to the attempt to connect -/
def start (reading : Reading) (loginInfo : LoginInfo) (object : OnSipXmpp) : OnSipXmpp :=
  let object := object.removeStateHandlers
  object.withInit (object.initStateMachine.addStateHandler (InitStateHandler.new reading),
    { object.xmpp with login := loginInfo })

/-- `OnSipXmpp::AsyncShutdown` -/
def asyncShutdown (object : OnSipXmpp) : OnSipXmpp :=
  { object with
    initStateMachine := object.initStateMachine.addEvent XmppEvent.newShutdownRequest }

/-- `OnSipXmpp::Cleanup`, up to the end of the connection -/
def cleanup (object : OnSipXmpp) : OnSipXmpp := object.removeStateHandlers

/-- The handlers of the login that exist: those in the machine and those in its queue. -/
def drivers (object : OnSipXmpp) : List InitStateHandler :=
  object.initStateMachine.stateHandlers ++ object.initStateMachine.handlerRequests

/-! ### The events kept for the caller -/

/-- `OnSipTapi::GetInitEvents`, as far as it changes the object -/
def getInitEvents (object : OnSipXmpp) : OnSipXmpp :=
  { object with calls := { object.calls with xmpp := { object.xmpp with lstInitEvents := [] } } }

/-- `OnSipTapi::GetCallEvents`, as far as it changes the object -/
def getCallEvents (object : OnSipXmpp) : OnSipXmpp :=
  { object with calls := { object.calls with xmpp := { object.xmpp with lstCallEvents := [] } } }

/-- `OnSipTapi::ClearEvents` -/
def clearEvents (object : OnSipXmpp) : OnSipXmpp := object.getCallEvents.getInitEvents

/-! ### Steps -/

/-- What the object itself does with its call machine is part of its own steps. -/
def ownStep : CallAction → Bool
  | .drawId | .signalEvent _ _ _ | .removeStateHandlers => true
  | _ => false

/-- One step of the polling thread, or of a thread that makes or drops calls. -/
inductive Action
  /-- A step of the poll of the call machine, or of another thread -/
  | call (action : CallAction)
  | pollInit (readings : StateMachineBase.PollReadings)
  | resetConnectLoop (reading : Reading)
  | signal (initReadings callReadings : Readings) (event : XmppEvent)
  | workerReply (index : Nat) (event : Option XmppEvent)
  | workerMessage (event : XmppEvent)
  | start (reading : Reading) (loginInfo : LoginInfo)
  | asyncShutdown
  | cleanup
  | getInitEvents
  | getCallEvents

/-- The next object, when the polling thread stands outside of the poll of the call machine -/
def whenIdle (object next : OnSipXmpp) : Option OnSipXmpp :=
  match object.calls.polling with
  | .idle => some next
  | _ => none

/-- One step of the object; `none` when the thread does not stand where the step begins. -/
def step (object : OnSipXmpp) : Action → Option OnSipXmpp
  | .call action =>
    if ownStep action then none
    else (object.calls.step action).map fun calls => { object with calls := calls }
  | .pollInit readings => object.whenIdle (object.pollInit readings)
  | .resetConnectLoop reading => object.whenIdle (object.resetConnectLoop reading)
  | .signal initReadings callReadings event =>
    object.whenIdle (object.signalEvent initReadings callReadings event)
  | .workerReply index event => object.whenIdle (object.workerReply index event)
  | .workerMessage event => object.whenIdle (object.workerMessage event)
  | .start reading loginInfo => object.whenIdle (object.start reading loginInfo)
  | .asyncShutdown => object.whenIdle object.asyncShutdown
  | .cleanup => object.whenIdle object.cleanup
  | .getInitEvents => object.whenIdle object.getInitEvents
  | .getCallEvents => object.whenIdle object.getCallEvents

theorem whenIdle_eq_some {object next last : OnSipXmpp} :
    object.whenIdle next = some last ↔ object.calls.polling = .idle ∧ next = last := by
  unfold whenIdle
  cases object.calls.polling <;> simp

theorem step_call {object next : OnSipXmpp} {action : CallAction} :
    object.step (.call action) = some next ↔ ownStep action = false ∧
      ∃ calls, object.calls.step action = some calls ∧ next = { object with calls := calls } := by
  rw [step]
  cases ownStep action <;> simp [eq_comm]

/-! ### What the steps leave -/

@[simp] theorem initStateMachine_withInit (object : OnSipXmpp)
    (next : StateMachineBase InitStateHandler XmppEvent × Xmpp) :
    (object.withInit next).initStateMachine = next.1 := rfl

@[simp] theorem initStateMachine_signalCalls (readings : Readings) (event : XmppEvent)
    (object : OnSipXmpp) :
    (object.signalCalls readings event).initStateMachine = object.initStateMachine := by
  unfold signalCalls
  split <;> rfl

/-- The login machine handles the event, or the call machine is next. -/
theorem signalEvent_cases (initReadings callReadings : Readings) (event : XmppEvent)
    (object : OnSipXmpp) :
    let signalled :=
      object.initStateMachine.signalEvent initVirtuals initReadings event false object.xmpp
    (signalled.1 = true ∧
      object.signalEvent initReadings callReadings event = object.withInit signalled.2) ∨
    (signalled.1 = false ∧ object.signalEvent initReadings callReadings event =
      (object.withInit signalled.2).signalCalls callReadings event) := by
  intro signalled
  unfold signalEvent
  split
  case h_1 next outcome => exact Or.inl (by simp [signalled, outcome])
  case h_2 next outcome => exact Or.inr (by simp [signalled, outcome])

/-- Signalling an event changes the login machine as the machine's own function does. -/
theorem initStateMachine_signalEvent (initReadings callReadings : Readings) (event : XmppEvent)
    (object : OnSipXmpp) :
    (object.signalEvent initReadings callReadings event).initStateMachine =
      (object.initStateMachine.signalEvent initVirtuals initReadings event false
        object.xmpp).2.1 := by
  rcases object.signalEvent_cases initReadings callReadings event with
    ⟨-, same⟩ | ⟨-, same⟩
  · rw [same, initStateMachine_withInit]
  · rw [same, initStateMachine_signalCalls, initStateMachine_withInit]

end OnSipXmpp

/-! ### Inputs of the concrete runs -/

namespace Example

open OnSipXmpp

/-- A poll of both machines that finds nothing to take from the call machine -/
def pollBoth (tick : Nat) : List Action :=
  [.pollInit (.still (reading tick)), .call .testRequests, .call .testEvents,
    .call (.pollHandlers (readings tick)), .resetConnectLoop (reading tick)]

def signalAt (tick : Nat) (event : XmppEvent) : Action :=
  .signal (readings tick) (readings tick) event

/-- The answer to the authorization -/
def authorized : XmppEvent := ⟨[], false, 1, .auth "2030-01-01T00:00Z".toList⟩

/-- The answer to the subscription to the call events -/
def subscribed : XmppEvent := ⟨[], false, 0, .subscribed true "sub".toList⟩

/-- A session begins and the login succeeds. -/
def logIn : List Action :=
  .start (reading 0) login :: pollBoth 250 ++
    [signalAt 300 (.connectFactory true), signalAt 310 authorized, signalAt 320 subscribed]

end Example

end JnTapi
