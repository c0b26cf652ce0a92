/-
This file models an `OnSipStateMachineBase` that is shared between threads, and
proves what its two queues deliver.

Any number of threads add events and handlers, each within the lock; the polling
thread goes through `PollStateHandlers`, where each test of a flag, each critical
section, each request and each event is a step of its own. The virtual functions
are arbitrary, and so is what else happens to the object they run against. Each
queue is a mailbox of the library, so that what the two deliver is proved once.

The flags are of type `int`, which wraps. Where a flag is positive as long as its
queue is not empty, each poll delivers all that was added before its test; a queue
that is filled 2^31 times without a poll makes its flag negative, and is not seen.
-/

import JnTapi.Library.Mailbox
import JnTapi.Call.System

namespace JnTapi

open Library StateMachineBase

/-- Where the polling thread stands in `PollStateHandlers`. -/
inductive PollStage (Handler Event : Type)
  | idle
  | requestsSeen
  | handlingRequests (pending : List Handler)
  | eventsSeen
  | signallingEvents (pending : List Event)

/-- One step of one of the threads. -/
inductive MachineAction (Handler Event Object : Type)
  /-- `AddEvent` -/
  | addEvent (event : Event)
  /-- `AddStateHandler` -/
  | addStateHandler (handler : Handler)
  /-- Whatever else changes the object -/
  | changeObject (object : Object)
  /-- `SignalEvent`, called by the polling thread outside of `PollStateHandlers` -/
  | signalEvent (readings : Readings) (event : Event) (deleteEventData : Bool)
  /-- `RemoveStateHandlers`, called by the polling thread outside of `PollStateHandlers` -/
  | removeStateHandlers
  | testRequests
  | takeRequests
  | handleRequest (readings : RequestReadings)
  | testEvents
  | takeEvents
  | signalNext (readings : Readings)
  | pollHandlers (readings : Readings)

namespace PollStage

variable {Handler Event : Type}

/-- The requests that are taken and not handled yet -/
def pendingRequests : PollStage Handler Event → List Handler
  | .handlingRequests pending => pending
  | _ => []

/-- The events that are taken and not signalled yet -/
def pendingEvents : PollStage Handler Event → List Event
  | .signallingEvents pending => pending
  | _ => []

end PollStage

/-! ### The calls that the handling of a request makes -/

/-- A call of a virtual function that has an effect on the handler of a request. -/
inductive HandlerCall (Handler : Type)
  | preExecute (handler : Handler)
  | delete (handler : Handler)

namespace Virtuals

variable {Handler Event Object : Type}

/-- The same virtual functions, with a record of the calls of `PreExecute` and of the deletions
of handlers beside the object. -/
def recording (virtuals : Virtuals Handler Event Object) :
    Virtuals Handler Event (Object × List (HandlerCall Handler)) where
  isYourEvent reading handler event object :=
    let (accepted, next, left) := virtuals.isYourEvent reading handler event object.1
    (accepted, next, left, object.2)
  isStillExist reading handler object :=
    let (exists_, next, left) := virtuals.isStillExist reading handler object.1
    (exists_, next, left, object.2)
  pollStateHandler reading handler object :=
    let (changed, next, left) := virtuals.pollStateHandler reading handler object.1
    (changed, next, left, object.2)
  unknownEvent reading event object :=
    let (created, left) := virtuals.unknownEvent reading event object.1
    (created, left, object.2)
  onStateChange handler reason object := (virtuals.onStateChange handler reason object.1, object.2)
  hasPreExecute := virtuals.hasPreExecute
  preExecute reading handler object :=
    let (executed, next, left) := virtuals.preExecute reading handler object.1
    (executed, next, left, object.2 ++ [.preExecute handler])
  deleteEvent event object := (virtuals.deleteEvent event object.1, object.2)
  deleteHandler handler object :=
    (virtuals.deleteHandler handler object.1, object.2 ++ [.delete handler])

variable (virtuals : Virtuals Handler Event Object) (reading : Reading) (handler : Handler)
  (object : Object) (calls : List (HandlerCall Handler))

@[simp] theorem recording_hasPreExecute :
    virtuals.recording.hasPreExecute handler = virtuals.hasPreExecute handler := rfl

@[simp] theorem recording_preExecute :
    virtuals.recording.preExecute reading handler (object, calls) =
      ((virtuals.preExecute reading handler object).1,
        (virtuals.preExecute reading handler object).2.1,
        (virtuals.preExecute reading handler object).2.2, calls ++ [.preExecute handler]) := rfl

@[simp] theorem recording_isStillExist :
    virtuals.recording.isStillExist reading handler (object, calls) =
      ((virtuals.isStillExist reading handler object).1,
        (virtuals.isStillExist reading handler object).2.1,
        (virtuals.isStillExist reading handler object).2.2, calls) := rfl

@[simp] theorem recording_deleteHandler :
    virtuals.recording.deleteHandler handler (object, calls) =
      (virtuals.deleteHandler handler object, calls ++ [.delete handler]) := rfl

end Virtuals

/-- The handling of one request: what it begins with, the calls it makes, and the handlers of the
machine after it. -/
structure Handling (Handler Object : Type) where
  request : Handler
  readings : RequestReadings
  handlers : List Handler
  object : Object
  calls : List (HandlerCall Handler)
  after : List Handler

namespace Handling

variable {Handler Event Object : Type} (virtuals : Virtuals Handler Event Object)

/-- The calls of `PreExecute` that a request is due: one, or none when it has no `PreExecute`. -/
def preExecutions (request : Handler) : List (HandlerCall Handler) :=
  if virtuals.hasPreExecute request then [.preExecute request] else []

/-- The request after `PreExecute`, with what that returns -/
def executed (handling : Handling Handler Object) : Bool × Handler × Object :=
  if virtuals.hasPreExecute handling.request then
    virtuals.preExecute handling.readings.preExecute handling.request handling.object
  else (true, handling.request, handling.object)

/-- The request after `IsStillExist`, with what that returns -/
def checked (handling : Handling Handler Object) : Bool × Handler × Object :=
  virtuals.isStillExist handling.readings.check (handling.executed virtuals).2.1
    (handling.executed virtuals).2.2

/-- The request is executed first. Then it is added to the machine and not deleted, when it still
exists; else it is deleted once and not added. -/
def Once (handling : Handling Handler Object) : Prop :=
  if (handling.executed virtuals).1 then
    if (handling.checked virtuals).1 then
      handling.calls = preExecutions virtuals handling.request ∧
        handling.after = handling.handlers ++ [(handling.checked virtuals).2.1]
    else
      handling.calls = preExecutions virtuals handling.request ++
        [.delete (handling.checked virtuals).2.1] ∧ handling.after = handling.handlers
  else
    handling.calls = preExecutions virtuals handling.request ++
      [.delete (handling.executed virtuals).2.1] ∧ handling.after = handling.handlers

theorem addStateHandler_recording (handler : Handler) (notifyState : Bool)
    (handlers : List Handler) (object : Object) (calls : List (HandlerCall Handler)) :
    StateMachine.addStateHandler virtuals.recording handler notifyState handlers (object, calls) =
      ((StateMachine.addStateHandler virtuals handler notifyState handlers object).1,
        (StateMachine.addStateHandler virtuals handler notifyState handlers object).2, calls) := by
  cases notifyState <;> rfl

theorem addStateHandler_fst (handler : Handler) (notifyState : Bool) (handlers : List Handler)
    (object : Object) :
    (StateMachine.addStateHandler virtuals handler notifyState handlers object).1 =
      handlers ++ [handler] := rfl

/-- The record of its calls does not change what the handling of a request leaves. -/
theorem handleRequest_recording (readings : RequestReadings) (request : Handler)
    (handlers : List Handler) (object : Object) (calls : List (HandlerCall Handler)) :
    ((handleRequest virtuals.recording readings request handlers (object, calls)).1,
      (handleRequest virtuals.recording readings request handlers (object, calls)).2.1) =
        handleRequest virtuals readings request handlers object := by
  cases executes : virtuals.hasPreExecute request with
  | true =>
    rcases executed : virtuals.preExecute readings.preExecute request object with
      ⟨accepted, next, left⟩
    rcases checked : virtuals.isStillExist readings.check next left with ⟨exists_, last, object⟩
    cases accepted with
    | false => simp [handleRequest, executes, executed]
    | true =>
      cases exists_ with
      | false => simp [handleRequest, executes, executed, checked]
      | true => simp [handleRequest, addStateHandler_recording, executes, executed, checked]
  | false =>
    rcases checked : virtuals.isStillExist readings.check request object with
      ⟨exists_, last, object⟩
    cases exists_ with
    | false => simp [handleRequest, executes, checked]
    | true => simp [handleRequest, addStateHandler_recording, executes, checked]

/-- The handling of a request, as its record has it. -/
theorem once_of_recording (readings : RequestReadings) (request : Handler)
    (handlers : List Handler) (object : Object) :
    Once virtuals ⟨request, readings, handlers, object,
      (handleRequest virtuals.recording readings request handlers (object, [])).2.2,
      (handleRequest virtuals.recording readings request handlers (object, [])).1⟩ := by
  unfold Once checked executed preExecutions
  cases executes : virtuals.hasPreExecute request with
  | true =>
    rcases executed : virtuals.preExecute readings.preExecute request object with
      ⟨accepted, next, left⟩
    rcases checked : virtuals.isStillExist readings.check next left with ⟨exists_, last, object⟩
    cases accepted with
    | false => simp [handleRequest, executes, executed]
    | true =>
      cases exists_ with
      | false => simp [handleRequest, executes, executed, checked]
      | true =>
        simp [handleRequest, addStateHandler_recording, addStateHandler_fst, executes, executed,
          checked]
  | false =>
    rcases checked : virtuals.isStillExist readings.check request object with
      ⟨exists_, last, object⟩
    cases exists_ with
    | false => simp [handleRequest, executes, checked]
    | true =>
      simp [handleRequest, addStateHandler_recording, addStateHandler_fst, executes, checked]

end Handling

/-! ### The machine -/

/-- What the polling thread has done in `PollStateHandlers`. -/
structure PollRecord (Handler Event Object : Type) where
  /-- The requests taken from their queue: one list for each poll that has taken any -/
  takenRequests : List (List Handler)
  /-- The requests handled, in order -/
  handlings : List (Handling Handler Object)
  /-- The events taken from their queue: one list for each poll that has taken any -/
  takenEvents : List (List Event)
  /-- The events passed to `SignalEvent`, in order -/
  signalled : List Event

/-- A state machine and the thread that polls it. -/
structure SharedMachine (Handler Event Object : Type) where
  machine : StateMachineBase Handler Event
  stage : PollStage Handler Event
  object : Object
  record : PollRecord Handler Event Object

/-- The test of a flag after so many additions: the flag is an `int`, which wraps. -/
def flagShows (additions : Nat) : Bool := 0 < (BitVec.ofNat 32 additions).toInt

theorem flagShows_of_lt {additions : Nat} (few : additions < 2 ^ 31) :
    flagShows additions = decide (0 < additions) := by
  have value : (BitVec.ofNat 32 additions).toInt = additions := by
    rw [BitVec.toInt_eq_toNat_of_lt, BitVec.toNat_ofNat, Nat.mod_eq_of_lt (by omega)]
    rw [BitVec.toNat_ofNat]
    omega
  rw [flagShows, value]
  exact decide_eq_decide.mpr Int.natCast_pos

namespace SharedMachine

variable {Handler Event Object : Type} (virtuals : Virtuals Handler Event Object)

/-- The machine before anything has happened -/
def new (object : Object) : SharedMachine Handler Event Object :=
  ⟨StateMachineBase.new, .idle, object, ⟨[], [], [], []⟩⟩

/-- The machine with other handlers and another object -/
def withHandlers (shared : SharedMachine Handler Event Object) (next : List Handler × Object) :
    SharedMachine Handler Event Object :=
  { shared with machine := { shared.machine with stateHandlers := next.1 }, object := next.2 }

/-- `SignalEvent` of the machine -/
def signal (readings : Readings) (event : Event) (deleteEventData : Bool)
    (shared : SharedMachine Handler Event Object) : SharedMachine Handler Event Object :=
  shared.withHandlers (StateMachine.signalEvent virtuals readings event deleteEventData
    shared.machine.stateHandlers shared.object).2

/-- `SignalEvent`, called by `PollStateHandlers` and recorded -/
def signalPolled (readings : Readings) (event : Event)
    (shared : SharedMachine Handler Event Object) : SharedMachine Handler Event Object :=
  { shared.signal virtuals readings event true with
    record := { shared.record with signalled := shared.record.signalled ++ [event] } }

/-- The handling of a request, with a record of its calls -/
def handle (readings : RequestReadings) (request : Handler)
    (shared : SharedMachine Handler Event Object) : SharedMachine Handler Event Object :=
  let (handlers, object, calls) := handleRequest virtuals.recording readings request
    shared.machine.stateHandlers (shared.object, [])
  let handling := ⟨request, readings, shared.machine.stateHandlers, shared.object, calls, handlers⟩
  { shared.withHandlers (handlers, object) with
    record := { shared.record with handlings := shared.record.handlings ++ [handling] } }

/-- The record aside, a request is handled as by the function itself. -/
theorem handle_eq (readings : RequestReadings) (request : Handler)
    (shared : SharedMachine Handler Event Object) :
    ∃ left, shared.handle virtuals readings request =
      { shared.withHandlers (handleRequest virtuals readings request shared.machine.stateHandlers
        shared.object) with record := left } := by
  refine ⟨(shared.handle virtuals readings request).record, ?_⟩
  rw [← Handling.handleRequest_recording virtuals readings request shared.machine.stateHandlers
    shared.object []]
  rfl

/-- One step; `none` when the polling thread does not stand where the step begins. -/
def step (shared : SharedMachine Handler Event Object) :
    MachineAction Handler Event Object → Option (SharedMachine Handler Event Object)
  | .addEvent event => some { shared with machine := shared.machine.addEvent event }
  | .addStateHandler handler =>
    some { shared with machine := shared.machine.addStateHandler handler }
  | .changeObject object => some { shared with object := object }
  | .signalEvent readings event deleteEventData =>
    match shared.stage with
    | .idle => some (shared.signal virtuals readings event deleteEventData)
    | _ => none
  | .removeStateHandlers =>
    match shared.stage with
    | .idle => some (shared.withHandlers
        (StateMachine.removeStateHandlers virtuals shared.machine.stateHandlers shared.object))
    | _ => none
  | .testRequests =>
    match shared.stage with
    | .idle => some { shared with
        stage := if flagShows shared.machine.requestChange then .requestsSeen
          else .handlingRequests [] }
    | _ => none
  | .takeRequests =>
    match shared.stage with
    | .requestsSeen =>
      let (requests, machine) := shared.machine.takeRequests
      some { shared with
        machine := machine
        stage := .handlingRequests requests
        record := { shared.record with
          takenRequests := shared.record.takenRequests ++ [requests] } }
    | _ => none
  | .handleRequest readings =>
    match shared.stage with
    | .handlingRequests (request :: rest) =>
      some { shared.handle virtuals readings request with stage := .handlingRequests rest }
    | _ => none
  | .testEvents =>
    match shared.stage with
    | .handlingRequests [] => some { shared with
        stage := if flagShows shared.machine.eventChange then .eventsSeen
          else .signallingEvents [] }
    | _ => none
  | .takeEvents =>
    match shared.stage with
    | .eventsSeen =>
      let (events, machine) := shared.machine.takeEvents
      some { shared with
        machine := machine
        stage := .signallingEvents events
        record := { shared.record with
          takenEvents := shared.record.takenEvents ++ [events] } }
    | _ => none
  | .signalNext readings =>
    match shared.stage with
    | .signallingEvents (event :: rest) =>
      some { shared.signalPolled virtuals readings event with stage := .signallingEvents rest }
    | _ => none
  | .pollHandlers readings =>
    match shared.stage with
    | .signallingEvents [] =>
      some { shared.withHandlers (StateMachine.pollStateHandlers virtuals readings
        shared.machine.stateHandlers shared.object) with stage := .idle }
    | _ => none

/-! ### The two queues as mailboxes -/

/-- The queue of the requests, its flag and the thread that polls -/
def requestBox (shared : SharedMachine Handler Event Object) : Mailbox Handler where
  queue := shared.machine.handlerRequests
  changes := shared.machine.requestChange
  reader :=
    match shared.stage with
    | .requestsSeen => .seen
    | .handlingRequests pending => .holding pending
    | _ => .away
  served := shared.record.handlings.map Handling.request
  taken := shared.record.takenRequests

/-- The queue of the events, its flag and the thread that polls -/
def eventBox (shared : SharedMachine Handler Event Object) : Mailbox Event where
  queue := shared.machine.events
  changes := shared.machine.eventChange
  reader :=
    match shared.stage with
    | .eventsSeen => .seen
    | .signallingEvents pending => .holding pending
    | _ => .away
  served := shared.record.signalled
  taken := shared.record.takenEvents

/-- What a step does to the queue of the requests -/
def requestMail : MachineAction Handler Event Object → List (MailAction Handler)
  | .addStateHandler handler => [.add handler]
  | .testRequests => [.test]
  | .takeRequests => [.take]
  | .handleRequest _ => [.serve]
  | .testEvents => [.leave]
  | _ => []

/-- What a step does to the queue of the events -/
def eventMail : MachineAction Handler Event Object → List (MailAction Event)
  | .addEvent event => [.add event]
  | .testEvents => [.test]
  | .takeEvents => [.take]
  | .signalNext _ => [.serve]
  | .pollHandlers _ => [.leave]
  | _ => []

/-- Each step is a step of the queue of the requests, or none. -/
theorem simulates_requestBox : Simulates (step virtuals) (Mailbox.step flagShows)
    (@requestBox Handler Event Object) fun _ action => requestMail action := by
  intro shared action next stepped
  obtain ⟨machine, stage, object, record⟩ := shared
  rcases stage with _ | _ | (_ | ⟨request, rest⟩) | _ | (_ | ⟨event, rest⟩)
  case idle =>
    cases action with
    | testRequests =>
      obtain rfl := Option.some.inj stepped
      by_cases changed : flagShows machine.requestChange = true
      all_goals simp [requestBox, requestMail, run_cons, Mailbox.step, changed]
    | _ => cases stepped <;> rfl
  case handlingRequests.nil =>
    cases action with
    | testEvents =>
      obtain rfl := Option.some.inj stepped
      by_cases changed : flagShows machine.eventChange = true
      all_goals simp [requestBox, requestMail, run_cons, Mailbox.step, changed]
    | _ => cases stepped <;> rfl
  case handlingRequests.cons =>
    cases action with
    | handleRequest readings =>
      obtain rfl := Option.some.inj stepped
      simp [requestBox, requestMail, run_cons, Mailbox.step, handle, withHandlers]
    | _ => cases stepped <;> rfl
  all_goals cases action <;> cases stepped <;> rfl

/-- Each step is a step of the queue of the events, or none. -/
theorem simulates_eventBox : Simulates (step virtuals) (Mailbox.step flagShows)
    (@eventBox Handler Event Object) fun _ action => eventMail action := by
  intro shared action next stepped
  obtain ⟨machine, stage, object, record⟩ := shared
  rcases stage with _ | _ | (_ | ⟨request, rest⟩) | _ | (_ | ⟨event, rest⟩)
  case idle =>
    cases action with
    | testRequests =>
      obtain rfl := Option.some.inj stepped
      by_cases changed : flagShows machine.requestChange = true
      all_goals simp [eventBox, eventMail, changed]
    | _ => cases stepped <;> rfl
  case handlingRequests.nil =>
    cases action with
    | testEvents =>
      obtain rfl := Option.some.inj stepped
      by_cases changed : flagShows machine.eventChange = true
      all_goals simp [eventBox, eventMail, run_cons, Mailbox.step, changed]
    | _ => cases stepped <;> rfl
  all_goals cases action <;> cases stepped <;> rfl

/-! ### What the queues deliver -/

/-- The events that the actions add -/
def eventsAdded (actions : List (MachineAction Handler Event Object)) : List Event :=
  actions.filterMap fun
    | .addEvent event => some event
    | _ => none

/-- The requests that the actions add -/
def requestsAdded (actions : List (MachineAction Handler Event Object)) : List Handler :=
  actions.filterMap fun
    | .addStateHandler handler => some handler
    | _ => none

/-- What the two queues have kept of what was added in a run that ends in this state: nothing is
lost, duplicated or reordered. -/
structure Kept (actions : List (MachineAction Handler Event Object))
    (last : SharedMachine Handler Event Object) : Prop where
  /-- The events were passed to `SignalEvent` in the order in which they were added, each once or,
  as long as it is taken or queued, not yet. -/
  events : last.record.signalled ++ last.stage.pendingEvents ++ last.machine.events =
    eventsAdded actions
  /-- The requests were taken in the order in which they were added, each by one poll or, as long
  as it is queued, not yet. -/
  requests : last.record.takenRequests.flatten ++ last.machine.handlerRequests =
    requestsAdded actions
  /-- The requests taken were handled in the same order, each once or, as long as the poll that
  took it is under way, not yet. -/
  handlings : last.record.handlings.map Handling.request ++ last.stage.pendingRequests =
    last.record.takenRequests.flatten
  /-- Each request handled was executed at most once, and then added or deleted, once. -/
  handledOnce : ∀ handling ∈ last.record.handlings, handling.Once virtuals

/-- The first poll whose test comes after an addition delivers it. -/
structure InTime (actions : List (MachineAction Handler Event Object)) (object : Object) :
    Prop where
  /-- A poll that ends has passed on all events that were added before its test of the flag. An
  event added between the test and the critical section is passed on by the same poll. -/
  events : ∀ first middle readings rest polled,
    actions = first ++ .testEvents :: (middle ++ .pollHandlers readings :: rest) →
    run (step virtuals) (first ++ .testEvents :: middle) (new object) = some polled →
    eventsAdded first <+: polled.record.signalled
  /-- A poll that comes to the events has handled all requests that were added before its test of
  the flag. -/
  requests : ∀ first middle rest polled,
    actions = first ++ .testRequests :: (middle ++ .testEvents :: rest) →
    run (step virtuals) (first ++ .testRequests :: middle) (new object) = some polled →
    requestsAdded first <+: polled.record.handlings.map Handling.request

/-- The step is no test of a flag, or one that tells whether the queue is empty. -/
def TestTells (shared : SharedMachine Handler Event Object) :
    MachineAction Handler Event Object → Prop
  | .testRequests =>
    shared.machine.handlerRequests = [] ∨ flagShows shared.machine.handlerRequests.length = true
  | .testEvents => shared.machine.events = [] ∨ flagShows shared.machine.events.length = true
  | _ => True

instance (shared : SharedMachine Handler Event Object) :
    (action : MachineAction Handler Event Object) → Decidable (shared.TestTells action)
  | .testRequests | .testEvents => inferInstanceAs (Decidable (_ ∨ _))
  | .addEvent _ | .addStateHandler _ | .changeObject _ | .signalEvent _ _ _ | .removeStateHandlers
  | .takeRequests | .handleRequest _ | .takeEvents | .signalNext _ | .pollHandlers _ =>
    inferInstanceAs (Decidable True)

section delivery

variable {virtuals} {actions : List (MachineAction Handler Event Object)} {object : Object}
  {last : SharedMachine Handler Event Object}

theorem additions_eventMail (actions : List (MachineAction Handler Event Object)) :
    Mailbox.additions (actions.flatMap eventMail) = eventsAdded actions := by
  induction actions with
  | nil => rfl
  | cons action rest inductionHypothesis =>
    rw [List.flatMap_cons, Mailbox.additions_append, inductionHypothesis]
    cases action <;> rfl

theorem additions_requestMail (actions : List (MachineAction Handler Event Object)) :
    Mailbox.additions (actions.flatMap requestMail) = requestsAdded actions := by
  induction actions with
  | nil => rfl
  | cons action rest inductionHypothesis =>
    rw [List.flatMap_cons, Mailbox.additions_append, inductionHypothesis]
    cases action <;> rfl

@[simp] theorem pending_eventBox (shared : SharedMachine Handler Event Object) :
    shared.eventBox.reader.pending = shared.stage.pendingEvents := by
  obtain ⟨machine, stage, object, record⟩ := shared
  cases stage <;> rfl

@[simp] theorem pending_requestBox (shared : SharedMachine Handler Event Object) :
    shared.requestBox.reader.pending = shared.stage.pendingRequests := by
  obtain ⟨machine, stage, object, record⟩ := shared
  cases stage <;> rfl

/-- A run is a run of the queue of the events. -/
theorem run_eventBox (reached : run (step virtuals) actions (new object) = some last) :
    run (Mailbox.step flagShows) (actions.flatMap eventMail) Mailbox.new = some last.eventBox := by
  have simulated := (simulates_eventBox virtuals).run reached
  rw [outputs_of_actions eventMail reached] at simulated
  exact simulated

/-- A run is a run of the queue of the requests. -/
theorem run_requestBox (reached : run (step virtuals) actions (new object) = some last) :
    run (Mailbox.step flagShows) (actions.flatMap requestMail) Mailbox.new =
      some last.requestBox := by
  have simulated := (simulates_requestBox virtuals).run reached
  rw [outputs_of_actions requestMail reached] at simulated
  exact simulated

/-- A poll that has signalled what it has taken has signalled all that was added before its
test. -/
theorem signalled_inTime {first middle : List (MachineAction Handler Event Object)}
    (reached : run (step virtuals) (first ++ .testEvents :: middle) (new object) = some last)
    (tells : Along (step virtuals) TestTells (first ++ .testEvents :: middle) (new object))
    (done : last.stage = .signallingEvents []) : eventsAdded first <+: last.record.signalled := by
  obtain ⟨before, -, reachedBefore, -, -⟩ := run_split.mp reached
  have mails : (first ++ .testEvents :: middle).flatMap eventMail =
      first.flatMap (@eventMail Handler Event Object) ++ .test :: middle.flatMap eventMail := by
    rw [List.flatMap_append, List.flatMap_cons]
    rfl
  have boxed := run_eventBox reached
  rw [mails] at boxed
  rw [← additions_eventMail]
  refine Mailbox.served_of_test boxed (fun box reachedBox => ?_) (by simp only [eventBox, done])
  obtain rfl : before.eventBox = box :=
    Option.some.inj ((run_eventBox reachedBefore).symm.trans reachedBox)
  rw [(Mailbox.accounts_of_run reachedBox).changes]
  exact tells.at_split reachedBefore

/-- A poll that has handled what it has taken has handled all that was added before its test. -/
theorem handled_inTime {first middle : List (MachineAction Handler Event Object)}
    (reached : run (step virtuals) (first ++ .testRequests :: middle) (new object) = some last)
    (tells : Along (step virtuals) TestTells (first ++ .testRequests :: middle) (new object))
    (done : last.stage = .handlingRequests []) :
    requestsAdded first <+: last.record.handlings.map Handling.request := by
  obtain ⟨before, -, reachedBefore, -, -⟩ := run_split.mp reached
  have mails : (first ++ .testRequests :: middle).flatMap requestMail =
      first.flatMap (@requestMail Handler Event Object) ++ .test :: middle.flatMap requestMail := by
    rw [List.flatMap_append, List.flatMap_cons]
    rfl
  have boxed := run_requestBox reached
  rw [mails] at boxed
  rw [← additions_requestMail]
  refine Mailbox.served_of_test boxed (fun box reachedBox => ?_) (by simp only [requestBox, done])
  obtain rfl : before.requestBox = box :=
    Option.some.inj ((run_requestBox reachedBefore).symm.trans reachedBox)
  rw [(Mailbox.accounts_of_run reachedBox).changes]
  exact tells.at_split reachedBefore

/-- A step records the handling of a request as one that has been done once. -/
theorem handlings_step {shared next : SharedMachine Handler Event Object}
    {action : MachineAction Handler Event Object}
    (once : ∀ handling ∈ shared.record.handlings, handling.Once virtuals)
    (stepped : shared.step virtuals action = some next) :
    ∀ handling ∈ next.record.handlings, handling.Once virtuals := by
  obtain ⟨machine, stage, object, record⟩ := shared
  cases action with
  | handleRequest readings =>
    rcases stage with _ | _ | (_ | ⟨request, rest⟩) | _ | _
    case handlingRequests.cons =>
      obtain rfl := Option.some.inj stepped
      intro handling member
      rcases List.mem_append.mp member with earlier | now
      · exact once handling earlier
      · rw [List.mem_singleton.mp now]
        exact Handling.once_of_recording virtuals readings request _ _
    all_goals cases stepped
  | _ =>
    rcases stage with _ | _ | (_ | ⟨request, rest⟩) | _ | (_ | ⟨event, rest⟩) <;> cases stepped
    all_goals exact once

/-- However the threads are interleaved, nothing is lost, duplicated or reordered. -/
theorem kept_of_run (reached : run (step virtuals) actions (new object) = some last) :
    Kept virtuals actions last := by
  have events := Mailbox.accounts_of_run (run_eventBox reached)
  have requests := Mailbox.accounts_of_run (run_requestBox reached)
  constructor
  case events =>
    have taken_queue := events.taken_queue
    rw [← events.served_pending, additions_eventMail, pending_eventBox] at taken_queue
    exact taken_queue
  case requests =>
    have taken_queue := requests.taken_queue
    rw [additions_requestMail] at taken_queue
    exact taken_queue
  case handlings =>
    have served_pending := requests.served_pending
    rw [pending_requestBox] at served_pending
    exact served_pending
  case handledOnce =>
    exact run_invariant (fun _ _ _ stepped once => handlings_step once stepped) reached
      fun handling none => absurd none List.not_mem_nil

/-- A run whose tests tell whether the queues are empty delivers in time. -/
theorem inTime_of_run (reached : run (step virtuals) actions (new object) = some last)
    (tells : Along (step virtuals) TestTells actions (new object)) :
    InTime virtuals actions object := by
  constructor
  case events =>
    rintro first middle readings rest polled rfl reachedPolled
    rw [← List.cons_append, ← List.append_assoc] at reached tells
    obtain ⟨before, after, reachedBefore, stepped, -⟩ := run_split.mp reached
    obtain rfl : polled = before := Option.some.inj (reachedPolled.symm.trans reachedBefore)
    refine signalled_inTime reachedPolled (tells.append reachedPolled).1 ?_
    obtain ⟨machine, stage, object, record⟩ := polled
    rcases stage with _ | _ | _ | _ | (_ | ⟨event, rest⟩) <;> cases stepped
    rfl
  case requests =>
    rintro first middle rest polled rfl reachedPolled
    rw [← List.cons_append, ← List.append_assoc] at reached tells
    obtain ⟨before, after, reachedBefore, stepped, -⟩ := run_split.mp reached
    obtain rfl : polled = before := Option.some.inj (reachedPolled.symm.trans reachedBefore)
    refine handled_inTime reachedPolled (tells.append reachedPolled).1 ?_
    obtain ⟨machine, stage, object, record⟩ := polled
    rcases stage with _ | _ | (_ | ⟨request, rest⟩) | _ | _ <;> cases stepped
    rfl

end delivery

/-! ### A poll that nothing interrupts -/

/-- The handling of these requests, one after the other -/
def handleAll (readings : Nat → RequestReadings) :
    List Handler → List (MachineAction Handler Event Object)
  | [] => []
  | _ :: rest => .handleRequest (readings 0) :: handleAll (fun count => readings (count + 1)) rest

/-- The signalling of these events, one after the other -/
def signalAll (readings : Nat → Readings) :
    List Event → List (MachineAction Handler Event Object)
  | [] => []
  | _ :: rest => .signalNext (readings 0) :: signalAll (fun count => readings (count + 1)) rest

/-- The test of the requests, and the critical section when their flag is set -/
def askRequests (machine : StateMachineBase Handler Event) :
    List (MachineAction Handler Event Object) :=
  .testRequests :: if flagShows machine.requestChange then [.takeRequests] else []

/-- The test of the events, and the critical section when their flag is set -/
def askEvents (machine : StateMachineBase Handler Event) :
    List (MachineAction Handler Event Object) :=
  .testEvents :: if flagShows machine.eventChange then [.takeEvents] else []

/-- The steps of one poll of the machine -/
def poll (readings : PollReadings) (machine : StateMachineBase Handler Event) :
    List (MachineAction Handler Event Object) :=
  askRequests machine ++ (handleAll readings.requests machine.getRequests.1 ++
    (askEvents machine.getRequests.2 ++
      (signalAll readings.events machine.getRequests.2.getEvents.1 ++
        [.pollHandlers readings.last])))

theorem run_askRequests {machine : StateMachineBase Handler Event}
    (same : flagShows machine.requestChange = decide (0 < machine.requestChange))
    (object : Object) (record : PollRecord Handler Event Object) :
    ∃ left, run (step virtuals) (askRequests machine) ⟨machine, .idle, object, record⟩ =
      some ⟨machine.getRequests.2, .handlingRequests machine.getRequests.1, object, left⟩ := by
  by_cases changed : 0 < machine.requestChange
  · exact ⟨{ record with takenRequests := record.takenRequests ++ [machine.handlerRequests] }, by
      simp [askRequests, getRequests, takeRequests, run_cons, step, same, changed]⟩
  · exact ⟨record, by simp [askRequests, getRequests, run_cons, step, same, changed]⟩

theorem run_askEvents {machine : StateMachineBase Handler Event}
    (same : flagShows machine.eventChange = decide (0 < machine.eventChange))
    (handlers : List Handler) (object : Object) (record : PollRecord Handler Event Object) :
    ∃ left, run (step virtuals) (askEvents machine)
        ⟨{ machine with stateHandlers := handlers }, .handlingRequests [], object, record⟩ =
      some ⟨{ machine.getEvents.2 with stateHandlers := handlers },
        .signallingEvents machine.getEvents.1, object, left⟩ := by
  by_cases changed : 0 < machine.eventChange
  · exact ⟨{ record with takenEvents := record.takenEvents ++ [machine.events] }, by
      simp [askEvents, getEvents, takeEvents, run_cons, step, same, changed]⟩
  · exact ⟨record, by simp [askEvents, getEvents, run_cons, step, same, changed]⟩

theorem run_handleAll (readings : Nat → RequestReadings) (requests : List Handler)
    (machine : StateMachineBase Handler Event) (object : Object)
    (record : PollRecord Handler Event Object) :
    ∃ left, run (step virtuals) (handleAll readings requests)
        ⟨machine, .handlingRequests requests, object, record⟩ =
      some ⟨{ machine with stateHandlers :=
          (handleRequests virtuals readings requests machine.stateHandlers object).1 },
        .handlingRequests [],
        (handleRequests virtuals readings requests machine.stateHandlers object).2, left⟩ := by
  induction requests generalizing readings machine object record with
  | nil => exact ⟨record, rfl⟩
  | cons request rest inductionHypothesis =>
    have handled := Handling.handleRequest_recording virtuals (readings 0) request
      machine.stateHandlers object []
    rw [handleAll, run_cons, step, Option.bind_some, handleRequests, ← handled]
    exact inductionHypothesis _ _ _ _

theorem run_signalAll (readings : Nat → Readings) (events : List Event)
    (machine : StateMachineBase Handler Event) (object : Object)
    (record : PollRecord Handler Event Object) :
    ∃ left, run (step virtuals) (signalAll readings events)
        ⟨machine, .signallingEvents events, object, record⟩ =
      some ⟨{ machine with stateHandlers :=
          (signalEvents virtuals readings events machine.stateHandlers object).1 },
        .signallingEvents [],
        (signalEvents virtuals readings events machine.stateHandlers object).2, left⟩ := by
  induction events generalizing readings machine object record with
  | nil => exact ⟨record, rfl⟩
  | cons event rest inductionHypothesis =>
    rw [signalAll, run_cons, step, Option.bind_some, signalEvents]
    exact inductionHypothesis _ _ _ _

/-- A poll that nothing interrupts leaves what `PollStateHandlers` leaves. -/
theorem run_poll (readings : PollReadings) {machine : StateMachineBase Handler Event}
    (requests : flagShows machine.requestChange = decide (0 < machine.requestChange))
    (events : flagShows machine.eventChange = decide (0 < machine.eventChange))
    (object : Object) (record : PollRecord Handler Event Object) :
    ∃ left, run (step virtuals) (poll readings machine) ⟨machine, .idle, object, record⟩ =
      some ⟨(pollStateHandlers virtuals readings machine object).1, .idle,
        (pollStateHandlers virtuals readings machine object).2, left⟩ := by
  have same : machine.getRequests.2.eventChange = machine.eventChange := by
    unfold getRequests
    split_ifs <;> rfl
  rw [← same] at events
  obtain ⟨asking, askedRequests⟩ := run_askRequests virtuals requests object record
  obtain ⟨handling, handled⟩ := run_handleAll virtuals readings.requests machine.getRequests.1
    machine.getRequests.2 object asking
  obtain ⟨seeing, askedEvents⟩ := run_askEvents virtuals events
    (handleRequests virtuals readings.requests machine.getRequests.1
      machine.getRequests.2.stateHandlers object).1
    (handleRequests virtuals readings.requests machine.getRequests.1
      machine.getRequests.2.stateHandlers object).2 handling
  obtain ⟨left, signalled⟩ := run_signalAll virtuals readings.events
    machine.getRequests.2.getEvents.1 _ _ seeing
  refine ⟨left, ?_⟩
  rw [pollStateHandlers_eq, poll, run_append, askedRequests, Option.bind_some, run_append, handled,
    Option.bind_some, run_append, askedEvents, Option.bind_some, run_append, signalled,
    Option.bind_some, ← machine.stateHandlers_getRequests]
  rfl

/-- A test that tells whether its queue is empty finds what the number of additions tells. -/
theorem flagShows_eq {Item : Type} {queue : List Item} {additions : Nat}
    (counted : additions = queue.length)
    (tells : queue = [] ∨ flagShows queue.length = true) :
    flagShows additions = decide (0 < additions) := by
  subst counted
  rcases tells with rfl | shown
  · rfl
  · have positive : 0 < queue.length := by
      refine List.length_pos_iff.mpr fun none => ?_
      rw [none] at shown
      exact absurd shown (show ¬ flagShows 0 = true by decide)
    rw [shown, decide_eq_true positive]

/-- Both queues are empty after a poll that nothing interrupts. -/
theorem queues_pollStateHandlers (readings : PollReadings)
    {machine : StateMachineBase Handler Event}
    (requests : machine.requestChange = machine.handlerRequests.length)
    (events : machine.eventChange = machine.events.length) (object : Object) :
    (pollStateHandlers virtuals readings machine object).1.handlerRequests = [] ∧
      (pollStateHandlers virtuals readings machine object).1.events = [] := by
  rw [pollStateHandlers_eq]
  constructor
  · show machine.getRequests.2.getEvents.2.handlerRequests = []
    rw [handlerRequests_getEvents, getRequests]
    split_ifs with changed
    · rfl
    · exact List.length_eq_zero_iff.mp (requests ▸ Nat.eq_zero_of_not_pos changed)
  · have same : machine.getRequests.2.eventChange = machine.eventChange := by
      unfold getRequests
      split_ifs <;> rfl
    show machine.getRequests.2.getEvents.2.events = []
    rw [getEvents, same]
    split_ifs with changed
    · rfl
    · rw [events_getRequests]
      exact List.length_eq_zero_iff.mp (events ▸ Nat.eq_zero_of_not_pos changed)

/-- What the actions add, of both kinds -/
theorem added_append (first second : List (MachineAction Handler Event Object)) :
    eventsAdded (first ++ second) = eventsAdded first ++ eventsAdded second ∧
      requestsAdded (first ++ second) = requestsAdded first ++ requestsAdded second :=
  ⟨List.filterMap_append, List.filterMap_append⟩

theorem added_poll (readings : PollReadings) (machine : StateMachineBase Handler Event) :
    eventsAdded (poll readings machine : List (MachineAction Handler Event Object)) = [] ∧
      requestsAdded (poll readings machine : List (MachineAction Handler Event Object)) = [] := by
  have handling : ∀ readings (requests : List Handler),
      eventsAdded (handleAll readings requests : List (MachineAction Handler Event Object)) = [] ∧
        requestsAdded (handleAll readings requests : List (MachineAction Handler Event Object)) =
          [] := by
    intro readings requests
    induction requests generalizing readings with
    | nil => exact ⟨rfl, rfl⟩
    | cons request rest inductionHypothesis => exact inductionHypothesis _
  have signalling : ∀ readings (events : List Event),
      eventsAdded (signalAll readings events : List (MachineAction Handler Event Object)) = [] ∧
        requestsAdded (signalAll readings events : List (MachineAction Handler Event Object)) =
          [] := by
    intro readings events
    induction events generalizing readings with
    | nil => exact ⟨rfl, rfl⟩
    | cons event rest inductionHypothesis => exact inductionHypothesis _
  have asking : eventsAdded (askRequests machine : List (MachineAction Handler Event Object)) = [] ∧
      requestsAdded (askRequests machine : List (MachineAction Handler Event Object)) = [] := by
    unfold askRequests
    split_ifs <;> exact ⟨rfl, rfl⟩
  have seeing : eventsAdded (askEvents machine.getRequests.2 :
        List (MachineAction Handler Event Object)) = [] ∧
      requestsAdded (askEvents machine.getRequests.2 :
        List (MachineAction Handler Event Object)) = [] := by
    unfold askEvents
    split_ifs <;> exact ⟨rfl, rfl⟩
  simp only [poll, (added_append _ _).1, (added_append _ _).2, handling, signalling, asking, seeing,
    List.nil_append]
  exact ⟨rfl, rfl⟩

variable {virtuals} {actions : List (MachineAction Handler Event Object)} {object : Object}
  {last : SharedMachine Handler Event Object}

/-- A poll that nothing interrupts, after a run: it is `PollStateHandlers`, and it leaves nothing in
the queues. -/
def PollDelivers (virtuals : Virtuals Handler Event Object) (readings : PollReadings)
    (actions : List (MachineAction Handler Event Object)) (object : Object)
    (last : SharedMachine Handler Event Object) : Prop :=
  ∃ polled, run (step virtuals) (actions ++ poll readings last.machine) (new object) = some polled ∧
    (polled.machine, polled.object) =
      pollStateHandlers virtuals readings last.machine last.object ∧
    polled.record.signalled = eventsAdded actions ∧
    polled.record.handlings.map Handling.request = requestsAdded actions

theorem pollDelivers_of_run (reached : run (step virtuals) actions (new object) = some last)
    (idle : last.stage = .idle) (requests : last.TestTells .testRequests)
    (events : last.TestTells .testEvents) (readings : PollReadings) :
    PollDelivers virtuals readings actions object last := by
  have countedRequests := (Mailbox.accounts_of_run (run_requestBox reached)).changes
  have countedEvents := (Mailbox.accounts_of_run (run_eventBox reached)).changes
  obtain ⟨left, polls⟩ := run_poll virtuals readings (flagShows_eq countedRequests requests)
    (flagShows_eq countedEvents events) last.object last.record
  have whole : run (step virtuals) (actions ++ poll readings last.machine) (new object) =
      some ⟨(pollStateHandlers virtuals readings last.machine last.object).1, .idle,
        (pollStateHandlers virtuals readings last.machine last.object).2, left⟩ := by
    refine run_append_eq_some.mpr ⟨last, reached, ?_⟩
    rw [← polls, ← idle]
  have kept := kept_of_run whole
  obtain ⟨noRequests, noEvents⟩ := queues_pollStateHandlers virtuals readings countedRequests
    countedEvents last.object
  have signalled := kept.events
  have taken := kept.requests
  have handled := kept.handlings
  rw [(added_append _ _).1, (added_poll _ _).1, List.append_nil] at signalled
  rw [(added_append _ _).2, (added_poll _ _).2, List.append_nil] at taken
  refine ⟨_, whole, rfl, ?_, ?_⟩
  · rw [← signalled]
    simp [PollStage.pendingEvents, noEvents]
  · rw [← taken, ← handled]
    simp [PollStage.pendingRequests, noRequests]

/-- However the threads that add events and handlers and the thread that polls are interleaved,
the two queues lose, duplicate and reorder nothing. Where no test finds the flag of a queue that is
not empty at zero or below, the first poll whose test comes after an addition delivers it. -/
theorem queues_deliver (reached : run (step virtuals) actions (new object) = some last) :
    Kept virtuals actions last ∧
    (Along (step virtuals) TestTells actions (new object) → InTime virtuals actions object) ∧
    (last.stage = .idle → last.TestTells .testRequests → last.TestTells .testEvents →
      ∀ readings, PollDelivers virtuals readings actions object last) :=
  ⟨kept_of_run reached, inTime_of_run reached, pollDelivers_of_run reached⟩

variable (virtuals)

/-- The same event is added again and again. -/
theorem run_addEvents (event : Event) (count : Nat) (shared : SharedMachine Handler Event Object) :
    run (step virtuals) (List.replicate count (.addEvent event)) shared =
      some { shared with machine := { shared.machine with
        events := shared.machine.events ++ List.replicate count event
        eventChange := shared.machine.eventChange + count } } := by
  induction count generalizing shared with
  | zero => simp
  | succ count inductionHypothesis =>
    rw [List.replicate_succ, run_cons, step, Option.bind_some, inductionHypothesis]
    simp [addEvent, List.replicate_succ, Nat.add_comm, Nat.add_left_comm]

/-- A poll after so many additions of an event -/
def addThenPoll (event : Event) (count : Nat) (readings : Readings) :
    List (MachineAction Handler Event Object) :=
  List.replicate count (.addEvent event) ++ [.testRequests, .testEvents, .pollHandlers readings]

/-- When their number makes the flag zero or negative, the poll passes on none of the events. -/
theorem late_addThenPoll (event : Event) {count : Nat} (some_ : 0 < count)
    (hidden : flagShows count = false) (readings : Readings) (object : Object) :
    ∃ last, run (step virtuals) (addThenPoll event count readings) (new object) = some last ∧
      ¬ InTime virtuals (addThenPoll event count readings) object := by
  have adds := run_addEvents virtuals event count (new object)
  have none : flagShows 0 = false := rfl
  have asks : run (step virtuals) (List.replicate count (.addEvent event) ++ [.testRequests])
      (new object) = some ⟨⟨[], List.replicate count event, count, [], 0⟩, .handlingRequests [],
        object, ⟨[], [], [], []⟩⟩ := by
    rw [run_append, adds]
    simp [new, StateMachineBase.new, run_cons, step, none]
  have tests : run (step virtuals)
      ((List.replicate count (.addEvent event) ++ [.testRequests]) ++ [.testEvents]) (new object) =
        some ⟨⟨[], List.replicate count event, count, [], 0⟩, .signallingEvents [], object,
          ⟨[], [], [], []⟩⟩ := by
    rw [run_append, asks]
    simp [run_cons, step, hidden]
  have split : addThenPoll event count readings = ((List.replicate count (.addEvent event) ++
      [.testRequests]) ++ [.testEvents]) ++
        [(.pollHandlers readings : MachineAction Handler Event Object)] := by
    simp [addThenPoll]
  refine ⟨_, by rw [split, run_append, tests]; rfl, fun inTime => ?_⟩
  have passed := inTime.events (List.replicate count (.addEvent event) ++ [.testRequests]) []
    readings [] _ (by simp [addThenPoll]) tests
  have added : eventsAdded (List.replicate count (.addEvent event) ++
      [(.testRequests : MachineAction Handler Event Object)]) = [] := List.prefix_nil.mp passed
  obtain ⟨count, rfl⟩ := Nat.exists_eq_succ_of_ne_zero some_.ne'
  cases added

/-- So many events that the flag is negative after the last are not seen by the poll that
follows. -/
theorem queues_deliver_wrap :
    ¬ ∀ (actions : List (MachineAction CallHandler XmppEvent Xmpp)) (object : Xmpp) last,
      run (step callVirtuals) actions (new object) = some last →
        Kept callVirtuals actions last ∧ InTime callVirtuals actions object := by
  intro delivers
  have negative : flagShows (2 ^ 31) = false := by decide
  obtain ⟨last, reached, late⟩ := late_addThenPoll callVirtuals (Example.retract "1") (by decide)
    negative (Example.readings 0) (Xmpp.new Example.login)
  exact late (delivers _ _ last reached).2

open JnTapi.Example in
/-- A request and an event are added, and a second event between the test of the flag and the
critical section of the poll that takes the first. -/
def addBetween : List (MachineAction CallHandler XmppEvent Xmpp) :=
  [.addStateHandler (CallHandler.newMakeCall (reading 0) "bob".toList 1), .addEvent (retract "1"),
    .testRequests, .takeRequests, .handleRequest ⟨reading 0, reading 0⟩, .testEvents,
    .addEvent (retract "2"), .takeEvents, .signalNext (readings 0), .signalNext (readings 0),
    .pollHandlers (readings 0)]

theorem queues_deliver_addBetween :
    ∃ last, run (step callVirtuals) addBetween (new (Xmpp.new Example.login)) = some last ∧
      Kept callVirtuals addBetween last ∧
      InTime callVirtuals addBetween (Xmpp.new Example.login) ∧
      PollDelivers callVirtuals (.still (Example.reading 0)) addBetween (Xmpp.new Example.login)
        last := by
  have reached : run (step callVirtuals) addBetween (new (Xmpp.new Example.login)) = some _ := rfl
  obtain ⟨kept, inTime, poll⟩ := queues_deliver reached
  exact ⟨_, reached, kept, inTime (by decide +kernel), poll rfl (Or.inl rfl) (Or.inl rfl) _⟩

end SharedMachine

/-! ### The call machine -/

namespace CallSystem

/-- Where the polling thread of the call machine stands -/
def stage (system : CallSystem) : PollStage CallHandler XmppEvent :=
  match system.polling with
  | .idle => .idle
  | .requestsSeen => .requestsSeen
  | .handlingRequests pending => .handlingRequests pending
  | .eventsSeen => .eventsSeen
  | .signallingEvents pending => .signallingEvents pending

/-- The call machine as a machine that is shared between threads, with a record of its polls -/
def shared (record : PollRecord CallHandler XmppEvent Xmpp) (system : CallSystem) :
    SharedMachine CallHandler XmppEvent Xmpp :=
  ⟨system.machine, system.stage, system.xmpp, record⟩

/-- What a step of the call machine does to the shared machine -/
def machineActions (system : CallSystem) :
    CallAction → List (MachineAction CallHandler XmppEvent Xmpp)
  | .drawId | .drawCallId _ => [.changeObject system.xmpp.getUniqueId.2]
  | .addCallHandler index reading =>
    match system.making[index]? with
    | some (callId, phoneNumber) =>
      [.addStateHandler (CallHandler.newMakeCall reading phoneNumber callId)]
    | none => []
  | .dropCallAsync callId => [.addEvent (.newDropRequest callId)]
  | .addEvent event => [.addEvent event]
  | .signalEvent readings event deleteEventData => [.signalEvent readings event deleteEventData]
  | .testRequests => [.testRequests]
  | .takeRequests => [.takeRequests]
  | .handleRequest readings => [.handleRequest readings]
  | .testEvents => [.testEvents]
  | .takeEvents => [.takeEvents]
  | .signalNext readings => [.signalNext readings]
  | .pollHandlers readings => [.pollHandlers readings]
  | .removeStateHandlers => [.removeStateHandlers]

/-- So few additions wait in each queue that its flag is positive when there are any. -/
def FewWait (system : CallSystem) (_ : CallAction) : Prop :=
  system.machine.requestChange < 2 ^ 31 ∧ system.machine.eventChange < 2 ^ 31

/-- Each step of the call machine is a step of the shared machine. -/
theorem simulates_shared {system next : CallSystem} {action : CallAction}
    (few : system.FewWait action) (stepped : system.step action = some next)
    (record : PollRecord CallHandler XmppEvent Xmpp) :
    ∃ left, run (SharedMachine.step callVirtuals) (machineActions system action)
      (system.shared record) = some (next.shared left) := by
  obtain ⟨machine, polling, making, returned, xmpp⟩ := system
  rcases polling with _ | _ | (_ | ⟨request, rest⟩) | _ | (_ | ⟨event, rest⟩)
  all_goals
    cases action with
    | addCallHandler index reading =>
      obtain ⟨callId, phoneNumber, present, rfl⟩ := step_addCallHandler.mp stepped
      refine ⟨record, ?_⟩
      simp only [machineActions, present]
      rfl
    | testRequests | testEvents =>
      cases stepped
      all_goals
        refine ⟨record, ?_⟩
        simp only [shared, stage, machineActions, run_cons, SharedMachine.step,
          flagShows_of_lt few.1, flagShows_of_lt few.2, decide_eq_true_eq]
        split_ifs <;> rfl
    | handleRequest readings =>
      cases stepped
      all_goals
        obtain ⟨left, handled⟩ := SharedMachine.handle_eq callVirtuals readings request
          ⟨machine, .handlingRequests (request :: rest), xmpp, record⟩
        refine ⟨left, ?_⟩
        simp only [shared, stage, machineActions, run_cons, SharedMachine.step, handled]
        rfl
    | _ => cases stepped <;> exact ⟨_, rfl⟩

/-- The test of a flag in the call machine tells whether its queue is empty. -/
theorem tells_machineActions {system : CallSystem} {action : CallAction}
    {record : PollRecord CallHandler XmppEvent Xmpp} (few : system.FewWait action)
    (requests : system.machine.requestChange = system.machine.handlerRequests.length)
    (events : system.machine.eventChange = system.machine.events.length) :
    Along (SharedMachine.step callVirtuals) SharedMachine.TestTells (machineActions system action)
      (system.shared record) := by
  have tells : ∀ {Item : Type} (queue : List Item), queue.length < 2 ^ 31 →
      queue = [] ∨ flagShows queue.length = true := by
    intro Item queue less
    rcases queue with _ | ⟨item, rest⟩
    · exact Or.inl rfl
    · exact Or.inr ((flagShows_of_lt less).trans (decide_eq_true (Nat.succ_pos _)))
  cases action with
  | testRequests =>
    exact ⟨tells system.machine.handlerRequests (requests ▸ few.1), fun _ _ => trivial⟩
  | testEvents => exact ⟨tells system.machine.events (events ▸ few.2), fun _ _ => trivial⟩
  | addCallHandler index reading =>
    rw [machineActions]
    split
    · exact ⟨trivial, fun _ _ => trivial⟩
    · trivial
  | _ => exact ⟨trivial, fun _ _ => trivial⟩

/-- The run is one of the shared machine, whose tests tell whether the queues are empty. -/
def RunsShared (login : LoginInfo) (actions : List CallAction) (last : CallSystem) : Prop :=
  run step actions (new login) = some last ∧
    ∃ record, run (SharedMachine.step callVirtuals)
        (outputs step machineActions actions (new login)) (.new (Xmpp.new login)) =
          some (last.shared record) ∧
      Along (SharedMachine.step callVirtuals) SharedMachine.TestTells
        (outputs step machineActions actions (new login)) (.new (Xmpp.new login))

theorem RunsShared.step {login : LoginInfo} {past : List CallAction} {middle next : CallSystem}
    {action : CallAction} (runs : RunsShared login past middle) (few : middle.FewWait action)
    (stepped : middle.step action = some next) : RunsShared login (past ++ [action]) next := by
  obtain ⟨reached, record, sharedRun, tells⟩ := runs
  obtain ⟨left, sharedStep⟩ := simulates_shared few stepped record
  have requests := (Mailbox.accounts_of_run (SharedMachine.run_requestBox sharedRun)).changes
  have events := (Mailbox.accounts_of_run (SharedMachine.run_eventBox sharedRun)).changes
  refine ⟨run_snoc.mpr ⟨middle, reached, stepped⟩, left, ?_⟩
  rw [outputs_snoc reached stepped]
  exact ⟨run_append_eq_some.mpr ⟨_, sharedRun, sharedStep⟩,
    tells.concat sharedRun (tells_machineActions few requests events)⟩

/-- A run of the call machine in which few enough additions wait delivers as the shared machine
does. -/
theorem delivered_of_run {login : LoginInfo} {actions : List CallAction} {last : CallSystem}
    (reached : run step actions (new login) = some last)
    (few : Along step FewWait actions (new login)) :
    ∃ record, SharedMachine.Kept callVirtuals (outputs step machineActions actions (new login))
        (last.shared record) ∧
      SharedMachine.InTime callVirtuals (outputs step machineActions actions (new login))
        (Xmpp.new login) := by
  have runs : RunsShared login actions last :=
    run_history_along (fun _ _ _ _ few stepped runs => RunsShared.step runs few stepped) reached few
      ⟨rfl, ⟨[], [], [], []⟩, rfl, trivial⟩
  obtain ⟨-, record, sharedRun, tells⟩ := runs
  exact ⟨record, SharedMachine.kept_of_run sharedRun, SharedMachine.inTime_of_run sharedRun tells⟩

end CallSystem

end JnTapi
