/-
This file models the call machine together with the threads that use it.

The polling thread signals the events of the connection and goes through
`PollStateHandlers`; TAPI threads call `MakeCallAsync` and `DropCallAsync` at any
time. Each critical section, and each test of a flag outside of one, is a step of
its own, so that a run of the system is any interleaving of them. What the
handlers do within one `PreExecute` or one `SignalEvent` touches no queue and is
one step.
-/

import JnTapi.Library.Runs
import JnTapi.StateMachineBase
import JnTapi.Call.MakeCall

namespace JnTapi

open StateMachineBase

/-- Where the polling thread stands in `PollStateHandlers`. -/
inductive Polling
  | idle
  /-- The flag of the requests was found set; the lock is still to be taken. -/
  | requestsSeen
  /-- The requests that are still to be handled -/
  | handlingRequests (pending : List CallHandler)
  /-- The flag of the events was found set; the lock is still to be taken. -/
  | eventsSeen
  /-- The events that are still to be signalled -/
  | signallingEvents (pending : List XmppEvent)
deriving DecidableEq, Repr

/-- The requests that the polling thread has taken and not handled yet. -/
def Polling.pendingRequests : Polling → List CallHandler
  | .handlingRequests pending => pending
  | _ => []

/-- The events that the polling thread has taken and not signalled yet. -/
def Polling.pendingEvents : Polling → List XmppEvent
  | .signallingEvents pending => pending
  | _ => []

/-- The call machine and its threads. -/
structure CallSystem where
  machine : StateMachineBase CallHandler XmppEvent
  polling : Polling
  /-- The calls of `MakeCallAsync` that have drawn their id and not added their handler yet -/
  making : List (Long × TString)
  /-- The ids that `MakeCallAsync` has returned -/
  returned : List Long
  xmpp : Xmpp
deriving DecidableEq, Repr

/-- One step of one of the threads. -/
inductive CallAction
  /-- An id is drawn for something else than a call. -/
  | drawId
  /-- `MakeCallAsync` draws the id. -/
  | drawCallId (phoneNumber : TString)
  /-- `MakeCallAsync` adds the handler and returns; the calls under way are numbered. -/
  | addCallHandler (index : Nat) (reading : Reading)
  /-- `DropCallAsync` -/
  | dropCallAsync (callId : Long)
  /-- `AddEvent` -/
  | addEvent (event : XmppEvent)
  /-- `SignalEvent`, called by the polling thread outside of `PollStateHandlers` -/
  | signalEvent (readings : Readings) (event : XmppEvent) (deleteEventData : Bool)
  /-- `_getRequests` tests its flag. -/
  | testRequests
  /-- `_getRequests` takes the requests. -/
  | takeRequests
  /-- `PollStateHandlers` handles the next request. -/
  | handleRequest (readings : RequestReadings)
  /-- `_getEvents` tests its flag. -/
  | testEvents
  /-- `_getEvents` takes the events. -/
  | takeEvents
  /-- `PollStateHandlers` signals the next event. -/
  | signalNext (readings : Readings)
  /-- `PollStateHandlers` polls and checks the handlers and returns. -/
  | pollHandlers (readings : Readings)
  /-- `RemoveStateHandlers`, called by the polling thread outside of `PollStateHandlers` -/
  | removeStateHandlers

namespace CallSystem

/-- The system with the object of the given login, before anything has happened -/
def new (login : LoginInfo) : CallSystem := ⟨StateMachineBase.new, .idle, [], [], Xmpp.new login⟩

/-- The handlers in the machine -/
def stateHandlers (system : CallSystem) : List CallHandler := system.machine.stateHandlers

/-- The system with other handlers in the machine and another object -/
def withHandlers (system : CallSystem) (next : List CallHandler × Xmpp) : CallSystem :=
  { system with machine := { system.machine with stateHandlers := next.1 }, xmpp := next.2 }

/-- `SignalEvent` of the call machine -/
def signal (readings : Readings) (event : XmppEvent) (deleteEventData : Bool)
    (system : CallSystem) : CallSystem :=
  system.withHandlers
    (StateMachine.signalEvent callVirtuals readings event deleteEventData system.stateHandlers
      system.xmpp).2

/-- One step of the system; `none` when the thread does not stand where the step begins. -/
def step (system : CallSystem) : CallAction → Option CallSystem
  | .drawId => some { system with xmpp := system.xmpp.getUniqueId.2 }
  | .drawCallId phoneNumber =>
    let (callId, xmpp) := system.xmpp.getUniqueId
    some { system with making := system.making ++ [(callId, phoneNumber)], xmpp := xmpp }
  | .addCallHandler index reading =>
    match system.making[index]? with
    | some (callId, phoneNumber) =>
      let handler := CallHandler.newMakeCall reading phoneNumber callId
      some { system with
        machine := system.machine.addStateHandler handler
        making := system.making.eraseIdx index
        returned := system.returned ++ [callId] }
    | none => none
  | .dropCallAsync callId =>
    some { system with machine := system.machine.addEvent (.newDropRequest callId) }
  | .addEvent event => some { system with machine := system.machine.addEvent event }
  | .signalEvent readings event deleteEventData =>
    match system.polling with
    | .idle => some (system.signal readings event deleteEventData)
    | _ => none
  | .testRequests =>
    match system.polling with
    | .idle =>
      some { system with
        polling := if 0 < system.machine.requestChange then .requestsSeen
          else .handlingRequests [] }
    | _ => none
  | .takeRequests =>
    match system.polling with
    | .requestsSeen =>
      let (requests, machine) := system.machine.takeRequests
      some { system with machine := machine, polling := .handlingRequests requests }
    | _ => none
  | .handleRequest readings =>
    match system.polling with
    | .handlingRequests (request :: rest) =>
      some { system.withHandlers (handleRequest callVirtuals readings request system.stateHandlers
        system.xmpp) with polling := .handlingRequests rest }
    | _ => none
  | .testEvents =>
    match system.polling with
    | .handlingRequests [] =>
      some { system with
        polling := if 0 < system.machine.eventChange then .eventsSeen else .signallingEvents [] }
    | _ => none
  | .takeEvents =>
    match system.polling with
    | .eventsSeen =>
      let (events, machine) := system.machine.takeEvents
      some { system with machine := machine, polling := .signallingEvents events }
    | _ => none
  | .signalNext readings =>
    match system.polling with
    | .signallingEvents (event :: rest) =>
      some { system.signal readings event true with polling := .signallingEvents rest }
    | _ => none
  | .pollHandlers readings =>
    match system.polling with
    | .signallingEvents [] =>
      some { system.withHandlers (StateMachine.pollStateHandlers callVirtuals readings
        system.stateHandlers system.xmpp) with polling := .idle }
    | _ => none
  | .removeStateHandlers =>
    match system.polling with
    | .idle =>
      some (system.withHandlers
        (StateMachine.removeStateHandlers callVirtuals system.stateHandlers system.xmpp))
    | _ => none

/-! ### When a step is enabled, and what it leaves -/

section steps

variable {system next : CallSystem}

theorem step_addCallHandler {index : Nat} {reading : Reading} :
    system.step (.addCallHandler index reading) = some next ↔
      ∃ callId phoneNumber, system.making[index]? = some (callId, phoneNumber) ∧
        next = { system with
          machine := system.machine.addStateHandler
            (CallHandler.newMakeCall reading phoneNumber callId)
          making := system.making.eraseIdx index
          returned := system.returned ++ [callId] } := by
  rw [step]
  rcases system.making[index]? with _ | ⟨callId, phoneNumber⟩
  · simp
  · simp [eq_comm]

theorem step_signalEvent {readings : Readings} {event : XmppEvent} {deleteEventData : Bool} :
    system.step (.signalEvent readings event deleteEventData) = some next ↔
      system.polling = .idle ∧ next = system.signal readings event deleteEventData := by
  rw [step]
  cases system.polling <;> simp [eq_comm]

theorem step_testRequests :
    system.step .testRequests = some next ↔
      system.polling = .idle ∧ next = { system with
        polling := if 0 < system.machine.requestChange then .requestsSeen
          else .handlingRequests [] } := by
  rw [step]
  cases system.polling <;> simp [eq_comm]

theorem step_takeRequests :
    system.step .takeRequests = some next ↔
      system.polling = .requestsSeen ∧ next = { system with
        machine := system.machine.takeRequests.2
        polling := .handlingRequests system.machine.handlerRequests } := by
  rw [step]
  cases system.polling <;> simp [eq_comm, takeRequests]

theorem step_handleRequest {readings : RequestReadings} :
    system.step (.handleRequest readings) = some next ↔
      ∃ request rest, system.polling = .handlingRequests (request :: rest) ∧
        next = { system.withHandlers (handleRequest callVirtuals readings request
          system.stateHandlers system.xmpp) with polling := .handlingRequests rest } := by
  rw [step]
  rcases system.polling with _ | _ | (_ | ⟨request, rest⟩) | _ | _ <;> simp [eq_comm]

theorem step_testEvents :
    system.step .testEvents = some next ↔
      system.polling = .handlingRequests [] ∧ next = { system with
        polling := if 0 < system.machine.eventChange then .eventsSeen
          else .signallingEvents [] } := by
  rw [step]
  rcases system.polling with _ | _ | (_ | ⟨request, rest⟩) | _ | _ <;> simp [eq_comm]

theorem step_takeEvents :
    system.step .takeEvents = some next ↔
      system.polling = .eventsSeen ∧ next = { system with
        machine := system.machine.takeEvents.2
        polling := .signallingEvents system.machine.events } := by
  rw [step]
  cases system.polling <;> simp [eq_comm, takeEvents]

theorem step_signalNext {readings : Readings} :
    system.step (.signalNext readings) = some next ↔
      ∃ event rest, system.polling = .signallingEvents (event :: rest) ∧
        next = { system.signal readings event true with polling := .signallingEvents rest } := by
  rw [step]
  rcases system.polling with _ | _ | _ | _ | (_ | ⟨event, rest⟩) <;> simp [eq_comm]

theorem step_pollHandlers {readings : Readings} :
    system.step (.pollHandlers readings) = some next ↔
      system.polling = .signallingEvents [] ∧
        next = { system.withHandlers (StateMachine.pollStateHandlers callVirtuals readings
          system.stateHandlers system.xmpp) with polling := .idle } := by
  rw [step]
  rcases system.polling with _ | _ | _ | _ | (_ | ⟨event, rest⟩) <;> simp [eq_comm]

theorem step_removeStateHandlers :
    system.step .removeStateHandlers = some next ↔
      system.polling = .idle ∧ next = system.withHandlers
        (StateMachine.removeStateHandlers callVirtuals system.stateHandlers system.xmpp) := by
  rw [step]
  cases system.polling <;> simp [eq_comm]

/-- The test of a flag only moves the polling thread, which has nothing pending then. -/
theorem step_tests {action : CallAction} (stepped : system.step action = some next)
    (tests : action = .testRequests ∨ action = .testEvents) :
    ∃ polling, next = { system with polling := polling } ∧
      polling.pendingRequests = system.polling.pendingRequests ∧
      polling.pendingEvents = system.polling.pendingEvents := by
  rcases tests with rfl | rfl
  · obtain ⟨idle, rfl⟩ := step_testRequests.mp stepped
    refine ⟨_, rfl, ?_, ?_⟩
    · rw [idle]
      split_ifs <;> rfl
    · rw [idle]
      split_ifs <;> rfl
  · obtain ⟨handled, rfl⟩ := step_testEvents.mp stepped
    refine ⟨_, rfl, ?_, ?_⟩
    · rw [handled]
      split_ifs <;> rfl
    · rw [handled]
      split_ifs <;> rfl

/-- The event that the step signals, with its readings and whether it is deleted when nobody
knows it. -/
def signalOf (system : CallSystem) : CallAction → Option (Readings × XmppEvent × Bool)
  | .signalEvent readings event deleteEventData => some (readings, event, deleteEventData)
  | .signalNext readings =>
    match system.polling with
    | .signallingEvents (event :: _) => some (readings, event, true)
    | _ => none
  | _ => none

/-- A step that signals an event leaves what `SignalEvent` leaves. -/
theorem step_signalled {action : CallAction} {readings : Readings} {event : XmppEvent}
    {deleteEventData : Bool} (stepped : system.step action = some next)
    (signals : system.signalOf action = some (readings, event, deleteEventData)) :
    (next.stateHandlers, next.xmpp) = (StateMachine.signalEvent callVirtuals readings event
      deleteEventData system.stateHandlers system.xmpp).2 := by
  cases action with
  | signalEvent given =>
    obtain ⟨-, rfl⟩ := step_signalEvent.mp stepped
    obtain ⟨rfl, rfl, rfl⟩ : given = readings ∧ _ = event ∧ _ = deleteEventData := by
      simpa [signalOf] using signals
    rfl
  | signalNext given =>
    obtain ⟨first, rest, pending, rfl⟩ := step_signalNext.mp stepped
    obtain ⟨rfl, rfl, rfl⟩ : given = readings ∧ first = event ∧ true = deleteEventData := by
      simpa [signalOf, pending] using signals
    rfl
  | _ => cases signals

end steps

/-- The ids of the calls that are to come: those being made, and those whose handler waits in
the queue or has been taken from it. -/
def waiting (system : CallSystem) : List Long :=
  (system.polling.pendingRequests ++ system.machine.handlerRequests).map CallHandler.callId ++
    system.making.map Prod.fst

end CallSystem

/-! ### Inputs of the concrete runs -/

namespace Example

/-- A reading at the given tick, with the time-outs switched on. -/
def reading (tick : Nat) : Reading := ⟨BitVec.ofNat 32 tick, BitVec.ofNat 32 tick, 0⟩

def readings (tick : Nat) : Readings := .still (reading tick)

def login : LoginInfo := ⟨"ann".toList, "secret".toList, "example.com".toList⟩

/-- An active-call event from bob to ann with the given ids -/
def eventOf (id sipCallid callSetupId : String) (dialogState : CallDialogState) : XmppEvent :=
  let ace : ActiveCall :=
    { dialogState := dialogState
      sipCallid := sipCallid.toList
      fromUri := "sip:bob@example.com".toList
      toUri := "sip:ann@example.com".toList
      fromTag := "from".toList
      toTag := "to".toList
      branch := id.toList
      callSetupId := callSetupId.toList }
  ⟨id.toList, false, 0, .activeCall ace⟩

/-- An event of a call that was not made by the program -/
def activeCall (id sipCallid : String) (dialogState : CallDialogState) : XmppEvent :=
  eventOf id sipCallid "" dialogState

/-- An event of the first leg of a call that the program has made at tick zero -/
def firstLeg (id : String) (dialogState : CallDialogState) : XmppEvent :=
  eventOf id "leg" "00000000" dialogState

def retract (id : String) : XmppEvent := ⟨id.toList, false, 0, .retractCall⟩

/-- One uninterrupted poll at the given tick that finds one request and no events. -/
def pollOneRequest (tick : Nat) : List CallAction :=
  [.testRequests, .takeRequests, .handleRequest ⟨reading tick, reading tick⟩, .testEvents,
    .pollHandlers (readings tick)]

end Example

end JnTapi
