/-
This file models `OnSipStateMachineBase`: a state machine with two queues that
other threads fill, one of handlers to be added and one of events.

The critical sections and the tests of the two flags outside them are separate
functions. `pollStateHandlers` puts them together in the order of the source; a
model that lets other threads run in between uses them one by one.
-/

import JnTapi.StateMachine

namespace JnTapi

/-- `OnSipStateMachineBase`. Each flag counts the additions since its queue was last taken; the
`int` of the source is this number, wrapped. -/
structure StateMachineBase (Handler Event : Type) where
  stateHandlers : List Handler
  events : List Event
  eventChange : Nat
  handlerRequests : List Handler
  requestChange : Nat
deriving DecidableEq, Repr

namespace StateMachineBase

variable {Handler Event Object : Type} (virtuals : Virtuals Handler Event Object)

/-- `OnSipStateMachineBase()` -/
def new : StateMachineBase Handler Event := ⟨[], [], 0, [], 0⟩

/-! ### The queues -/

/-- `OnSipStateMachineBase::AddStateHandler` -/
def addStateHandler (handler : Handler) (machine : StateMachineBase Handler Event) :
    StateMachineBase Handler Event :=
  { machine with
    handlerRequests := machine.handlerRequests ++ [handler]
    requestChange := machine.requestChange + 1 }

/-- `OnSipStateMachineBase::AddEvent` -/
def addEvent (event : Event) (machine : StateMachineBase Handler Event) :
    StateMachineBase Handler Event :=
  { machine with
    events := machine.events ++ [event]
    eventChange := machine.eventChange + 1 }

/-- The critical section of `OnSipStateMachineBase::_getRequests` -/
def takeRequests (machine : StateMachineBase Handler Event) :
    List Handler × StateMachineBase Handler Event :=
  (machine.handlerRequests, { machine with handlerRequests := [], requestChange := 0 })

/-- `OnSipStateMachineBase::_getRequests` -/
def getRequests (machine : StateMachineBase Handler Event) :
    List Handler × StateMachineBase Handler Event :=
  if 0 < machine.requestChange then machine.takeRequests else ([], machine)

/-- The critical section of `OnSipStateMachineBase::_getEvents` -/
def takeEvents (machine : StateMachineBase Handler Event) :
    List Event × StateMachineBase Handler Event :=
  (machine.events, { machine with events := [], eventChange := 0 })

/-- `OnSipStateMachineBase::_getEvents` -/
def getEvents (machine : StateMachineBase Handler Event) :
    List Event × StateMachineBase Handler Event :=
  if 0 < machine.eventChange then machine.takeEvents else ([], machine)

@[simp] theorem stateHandlers_getRequests (machine : StateMachineBase Handler Event) :
    machine.getRequests.2.stateHandlers = machine.stateHandlers := by
  unfold getRequests
  split_ifs <;> rfl

/-- The requests are taken or left in their queue. -/
theorem getRequests_append (machine : StateMachineBase Handler Event) :
    machine.getRequests.1 ++ machine.getRequests.2.handlerRequests = machine.handlerRequests := by
  unfold getRequests
  split_ifs
  · exact List.append_nil _
  · rfl

@[simp] theorem events_getRequests (machine : StateMachineBase Handler Event) :
    machine.getRequests.2.events = machine.events := by
  unfold getRequests
  split_ifs <;> rfl

/-- The events are taken or left in their queue. -/
theorem getEvents_append (machine : StateMachineBase Handler Event) :
    machine.getEvents.1 ++ machine.getEvents.2.events = machine.events := by
  unfold getEvents
  split_ifs
  · exact List.append_nil _
  · rfl

@[simp] theorem handlerRequests_getEvents (machine : StateMachineBase Handler Event) :
    machine.getEvents.2.handlerRequests = machine.handlerRequests := by
  unfold getEvents
  split_ifs <;> rfl

/-! ### Polling -/

/-- What the handling of one request reads: `PreExecute` and the check after it. -/
structure RequestReadings where
  preExecute : Reading
  check : Reading

/-- The handling of one request in `OnSipStateMachineBase::PollStateHandlers` -/
def handleRequest (readings : RequestReadings) (handler : Handler) (handlers : List Handler)
    (object : Object) : List Handler × Object :=
  match (if virtuals.hasPreExecute handler then virtuals.preExecute readings.preExecute handler object
    else (true, handler, object)) with
  | (false, handler, object) => (handlers, virtuals.deleteHandler handler object)
  | (true, handler, object) =>
    match virtuals.isStillExist readings.check handler object with
    | (true, handler, object) =>
      StateMachine.addStateHandler virtuals handler (virtuals.hasPreExecute handler) handlers object
    | (false, handler, object) => (handlers, virtuals.deleteHandler handler object)

/-- The loop of `OnSipStateMachineBase::PollStateHandlers` over the requests -/
def handleRequests (readings : Nat → RequestReadings) :
    List Handler → List Handler → Object → List Handler × Object
  | [], handlers, object => (handlers, object)
  | request :: rest, handlers, object =>
    let handled := handleRequest virtuals (readings 0) request handlers object
    handleRequests (fun count => readings (count + 1)) rest handled.1 handled.2

/-- The loop of `OnSipStateMachineBase::PollStateHandlers` over the events -/
def signalEvents (readings : Nat → Readings) :
    List Event → List Handler → Object → List Handler × Object
  | [], handlers, object => (handlers, object)
  | event :: rest, handlers, object =>
    let signalled := StateMachine.signalEvent virtuals (readings 0) event true handlers object
    signalEvents (fun count => readings (count + 1)) rest signalled.2.1 signalled.2.2

/-- The readings of one poll. -/
structure PollReadings where
  requests : Nat → RequestReadings
  events : Nat → Readings
  last : Readings

namespace PollReadings

/-- The readings of a poll during which nothing that is read changes. -/
def still (reading : Reading) : PollReadings :=
  ⟨fun _ => ⟨reading, reading⟩, fun _ => .still reading, .still reading⟩

end PollReadings

/-- `OnSipStateMachineBase::PollStateHandlers` -/
def pollStateHandlers (readings : PollReadings) (machine : StateMachineBase Handler Event)
    (object : Object) : StateMachineBase Handler Event × Object :=
  let (requests, machine) := machine.getRequests
  let (handlers, object) :=
    handleRequests virtuals readings.requests requests machine.stateHandlers object
  let (events, machine) := machine.getEvents
  let (handlers, object) := signalEvents virtuals readings.events events handlers object
  let (handlers, object) := StateMachine.pollStateHandlers virtuals readings.last handlers object
  ({ machine with stateHandlers := handlers }, object)

theorem pollStateHandlers_eq (readings : PollReadings) (machine : StateMachineBase Handler Event)
    (object : Object) :
    pollStateHandlers virtuals readings machine object =
      (let added := handleRequests virtuals readings.requests machine.getRequests.1
          machine.stateHandlers object
        let signalled := signalEvents virtuals readings.events machine.getRequests.2.getEvents.1
          added.1 added.2
        let polled := StateMachine.pollStateHandlers virtuals readings.last signalled.1 signalled.2
        ({ machine.getRequests.2.getEvents.2 with stateHandlers := polled.1 }, polled.2)) := by
  rw [← machine.stateHandlers_getRequests]
  rfl

/-- `SignalEvent`, called on the machine from outside its poll -/
def signalEvent (readings : Readings) (event : Event) (deleteEventData : Bool)
    (machine : StateMachineBase Handler Event) (object : Object) :
    Bool × StateMachineBase Handler Event × Object :=
  let signalled := StateMachine.signalEvent virtuals readings event deleteEventData
    machine.stateHandlers object
  (signalled.1, { machine with stateHandlers := signalled.2.1 }, signalled.2.2)

/-- `RemoveStateHandlers`, called on the machine: the queues stay as they are. -/
def removeStateHandlers (machine : StateMachineBase Handler Event) (object : Object) :
    StateMachineBase Handler Event × Object :=
  let removed := StateMachine.removeStateHandlers virtuals machine.stateHandlers object
  ({ machine with stateHandlers := removed.1 }, removed.2)

end StateMachineBase

end JnTapi
