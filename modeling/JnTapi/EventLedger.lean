/-
This file proves that no event is lost and that none is deleted twice.

An event that is given to the object waits in a queue, or a handler keeps it, or it
has been deleted, and it is entered in the books once for each time that it was
given. The one event that gets lost is the plain result that the login takes for the
answer to its authorization.
-/

import JnTapi.Library.Balance
import JnTapi.HeldEvents
import JnTapi.Replies
import JnTapi.Drivers
import JnTapi.InitReturns

namespace JnTapi

open Library

/-! ### The handlers of the login -/

namespace InitStateHandler

theorem currentEvent_checkStateTimeouts (reading : Reading) (states : List InitStates)
    {handler : InitStateHandler} (none : handler.currentEvent = none) :
    (checkStateTimeouts reading states handler).2.currentEvent = Option.none := by
  rcases checkStateTimeouts_cases reading states handler with same | ⟨-, timedOut⟩
  · rw [same]
    exact none
  · rw [timedOut]
    rfl

theorem currentEvent_handleReAuthorize (reading : Reading) {handler : InitStateHandler}
    (none : handler.currentEvent = none) (xmpp : Xmpp) :
    (handler.handleReAuthorize reading xmpp).2.1.currentEvent = Option.none := by
  unfold handleReAuthorize
  split
  · exact none
  · split
    · split_ifs <;> exact none
    · split_ifs
      · rfl
      · exact none

theorem currentEvent_pollStateHandler (reading : Reading) {handler : InitStateHandler}
    (none : handler.currentEvent = none) (xmpp : Xmpp) :
    (handler.pollStateHandler reading xmpp).2.1.currentEvent = Option.none := by
  refine @pollStateHandler_rule (fun next _ => next.currentEvent = Option.none) reading handler
    xmpp none (currentEvent_handleReAuthorize reading none xmpp) ?_ ?_
  · intro next later before
    exact (congrArg StateItem.eventData (currentState_pollPing reading next later)).trans before
  · exact fun states _ _ before => currentEvent_checkStateTimeouts reading states before

/-- A handler that keeps no event never keeps one. -/
theorem Evolves.currentEvent {handler next : InitStateHandler} (evolves : handler.Evolves next)
    (none : handler.currentEvent = none) : next.currentEvent = Option.none := by
  induction evolves with
  | refl => exact none
  | tail _ moves inductionHypothesis =>
    cases moves with
    | isYourEvent reading handler event xmpp =>
      exact currentEvent_isYourEvent reading inductionHypothesis event xmpp
    | isStillExist _ xmpp =>
      unfold isStillExist
      split_ifs <;> exact inductionHypothesis
    | pollStateHandler reading handler xmpp =>
      exact currentEvent_pollStateHandler reading inductionHypothesis xmpp
    | handleIqID event handler => exact inductionHypothesis
    | handleMessage event handler => exact inductionHypothesis

end InitStateHandler

/-! ### The call machine and its threads -/

namespace CallSystem

/-- The events that wait for the machine -/
def queuedEvents (system : CallSystem) : Multiset XmppEvent :=
  system.polling.pendingEvents + system.machine.events

/-- The events of the machine: those that wait, those that the handlers keep and what has been
deleted. -/
def books (system : CallSystem) : Multiset XmppEvent :=
  system.queuedEvents + ledger CallHandler.held Xmpp.freed (system.callHandlers, system.xmpp)

/-- The event that the step gives to the machine -/
def given : CallAction → Multiset XmppEvent
  | .dropCallAsync callId => {.newDropRequest callId}
  | .addEvent event => {event}
  | _ => 0

/-- What a call of the machine enters for the handlers in the machine is entered for all. -/
theorem books_withHandlers {system : CallSystem} {next : List CallHandler × Xmpp}
    {entry : Multiset XmppEvent}
    (entered : ledger CallHandler.held Xmpp.freed next =
      ledger CallHandler.held Xmpp.freed (system.stateHandlers, system.xmpp) + entry) :
    (system.withHandlers next).books = system.books + entry := by
  have all : ∀ handlers : List CallHandler × Xmpp, (system.withHandlers handlers).books =
      system.queuedEvents + (ledger CallHandler.held Xmpp.freed handlers +
        ((system.polling.pendingRequests ++ system.machine.handlerRequests).map
          CallHandler.held).sum) := by
    intro handlers
    exact congrArg (system.queuedEvents + ·) (ledger_append_right handlers.1 _ handlers.2)
  have same := all (system.stateHandlers, system.xmpp)
  rw [all, entered]
  rw [show system.withHandlers (system.stateHandlers, system.xmpp) = system from rfl] at same
  rw [same]
  abel

theorem books_signal (readings : Readings) (event : XmppEvent) (system : CallSystem) :
    (system.signal readings event true).books = system.books + {event} :=
  books_withHandlers (callVirtuals_accounts.signalEvent_whole (fun _ => rfl) readings
    system.stateHandlers system.xmpp)

/-- An event that is added waits in the queue. -/
theorem books_addEvent (event : XmppEvent) (system : CallSystem) :
    ({ system with machine := system.machine.addEvent event } : CallSystem).books =
      system.books + {event} := by
  show ↑system.polling.pendingEvents + ↑(system.machine.events ++ [event]) +
    ledger CallHandler.held Xmpp.freed (system.callHandlers, system.xmpp) = _
  rw [← Multiset.coe_add, books, queuedEvents, Multiset.coe_singleton]
  abel

variable {system next : CallSystem}

/-- The books stay the same when no handler changes and what is taken from the queue waits
elsewhere. -/
theorem books_of_same (xmpp : next.xmpp = system.xmpp)
    (handlers : next.callHandlers = system.callHandlers)
    (queued : next.queuedEvents = system.queuedEvents) : next.books = system.books := by
  rw [books, books, xmpp, handlers, queued]

theorem books_polling {polling : Polling}
    (pending : polling.pendingRequests = system.polling.pendingRequests)
    (events : polling.pendingEvents = system.polling.pendingEvents) :
    ({ system with polling := polling } : CallSystem).books = system.books := by
  refine books_of_same rfl ?_ ?_
  · unfold callHandlers
    rw [pending]
    rfl
  · unfold queuedEvents
    rw [events]

/-- A handler that `MakeCallAsync` adds keeps no event. -/
theorem books_addCallHandler {index : Nat} {reading : Reading}
    (stepped : system.step (.addCallHandler index reading) = some next) :
    next.books = system.books := by
  obtain ⟨callId, phoneNumber, -, rfl⟩ := step_addCallHandler.mp stepped
  refine congrArg (system.queuedEvents + ·) ?_
  have last : ledger CallHandler.held Xmpp.freed (system.callHandlers ++
      [CallHandler.newMakeCall reading phoneNumber callId], system.xmpp) =
      ledger CallHandler.held Xmpp.freed (system.callHandlers, system.xmpp) := by
    rw [ledger_append_right]
    exact add_zero _
  rw [← last, callHandlers, callHandlers, List.append_assoc, List.append_assoc]
  rfl

theorem books_handleRequest {readings : StateMachineBase.RequestReadings}
    (stepped : system.step (.handleRequest readings) = some next) : next.books = system.books := by
  obtain ⟨request, rest, pending, rfl⟩ := step_handleRequest.mp stepped
  have handled := callVirtuals_accounts.handleRequest readings request system.stateHandlers
    system.xmpp
  have first : system.callHandlers =
      (system.stateHandlers ++ [request]) ++ (rest ++ system.machine.handlerRequests) := by
    unfold callHandlers
    rw [pending, List.append_assoc]
    rfl
  rw [books, books, first, ledger_append_right, ← handled, ← ledger_append_right, queuedEvents,
    queuedEvents, pending]
  rfl

/-- The next event is entered for the handlers and waits no more. -/
theorem books_signalNext {readings : Readings}
    (stepped : system.step (.signalNext readings) = some next) : next.books = system.books := by
  obtain ⟨event, rest, pending, rfl⟩ := step_signalNext.mp stepped
  have waits : (system.signal readings event true).polling = .signallingEvents (event :: rest) :=
    pending
  have signalled := books_signal readings event system
  rw [books, queuedEvents, callHandlers, waits, Polling.pendingEvents, ← Multiset.cons_coe,
    ← Multiset.singleton_add, add_assoc, add_assoc, add_comm] at signalled
  refine Eq.trans ?_ (add_right_cancel signalled)
  exact add_assoc _ _ _

theorem books_pollHandlers {readings : Readings}
    (stepped : system.step (.pollHandlers readings) = some next) : next.books = system.books := by
  obtain ⟨pending, rfl⟩ := step_pollHandlers.mp stepped
  have polled : (system.withHandlers (StateMachine.pollStateHandlers callVirtuals readings
      system.stateHandlers system.xmpp)).books = system.books + 0 := by
    refine books_withHandlers ?_
    rw [callVirtuals_accounts.pollStateHandlers, add_zero]
  rw [add_zero] at polled
  unfold books queuedEvents callHandlers at polled ⊢
  simp only [withHandlers, pending] at polled ⊢
  exact polled

/-- A step enters the event that it gives to the machine, and nothing else. -/
theorem books_step {action : CallAction} (other : OnSipXmpp.ownStep action = false)
    (stepped : system.step action = some next) : next.books = system.books + given action := by
  have same : next.books = system.books → next.books = system.books + 0 :=
    fun unchanged => unchanged.trans (add_zero _).symm
  cases action with
  | drawId => cases other
  | signalEvent _ _ _ => cases other
  | removeStateHandlers => cases other
  | drawCallId phoneNumber =>
    obtain rfl := Option.some.inj stepped
    exact same rfl
  | addCallHandler index reading => exact same (books_addCallHandler stepped)
  | dropCallAsync callId =>
    obtain rfl := Option.some.inj stepped
    exact system.books_addEvent (.newDropRequest callId)
  | addEvent event =>
    obtain rfl := Option.some.inj stepped
    exact system.books_addEvent event
  | testRequests =>
    obtain ⟨polling, rfl, pending, events⟩ := step_tests stepped (Or.inl rfl)
    exact same (books_polling pending events)
  | takeRequests =>
    obtain ⟨seen, rfl⟩ := step_takeRequests.mp stepped
    refine same (books_of_same rfl ?_ ?_)
    · unfold callHandlers
      rw [seen]
      exact congrArg (system.stateHandlers ++ ·) (List.append_nil _)
    · unfold queuedEvents
      rw [seen]
      rfl
  | handleRequest readings => exact same (books_handleRequest stepped)
  | testEvents =>
    obtain ⟨polling, rfl, pending, events⟩ := step_tests stepped (Or.inr rfl)
    exact same (books_polling pending events)
  | takeEvents =>
    obtain ⟨seen, rfl⟩ := step_takeEvents.mp stepped
    refine same (books_of_same rfl ?_ ?_)
    · unfold callHandlers
      rw [seen]
      rfl
    · unfold queuedEvents
      rw [seen]
      exact add_comm _ _
  | signalNext readings => exact same (books_signalNext stepped)
  | pollHandlers readings => exact same (books_pollHandlers stepped)

end CallSystem

/-! ### The object -/

/-- The event that the handler of the login keeps, if it keeps one -/
def InitStateHandler.held (handler : InitStateHandler) : Multiset XmppEvent :=
  handler.currentEvent.toList

namespace OnSipXmpp

/-- The events that wait in the queues of both machines -/
def queuedEvents (object : OnSipXmpp) : Multiset XmppEvent :=
  object.initStateMachine.events + object.calls.queuedEvents

/-- The events that the handlers of both machines keep -/
def heldEvents (object : OnSipXmpp) : Multiset XmppEvent :=
  (object.drivers.map InitStateHandler.held).sum +
    (object.calls.callHandlers.map CallHandler.held).sum

/-- The event that the step gives to `_signalEvent` or to `AddEvent` -/
def given : Action → Multiset XmppEvent
  | .call action => CallSystem.given action
  | .signal _ _ event => {event}
  | .asyncShutdown => {XmppEvent.newShutdownRequest}
  | _ => 0

/-- The events that were given to the object are those that wait in a queue, those that a handler
keeps and those that have been deleted, each as often as it was given. -/
def OwnedOnce (actions : List Action) (object : OnSipXmpp) : Prop :=
  (actions.map given).sum = object.queuedEvents + object.heldEvents + object.xmpp.freed

/-- The login does not take the event for the answer to its authorization. -/
def NotTakenForAuth (object : OnSipXmpp) : Action → Prop
  | .signal _ _ event => ¬ TakenForAuth event object.initStateMachine.stateHandlers
  | _ => True

/-- The events of the object, when the handlers of the login keep none -/
def books (object : OnSipXmpp) : Multiset XmppEvent :=
  object.initStateMachine.events + object.calls.books

/-- The handlers of the login keep no event. -/
def LoginKeepsNone (object : OnSipXmpp) : Prop :=
  ∀ handler ∈ object.drivers, handler.currentEvent = none

theorem LoginKeepsNone.step {object next : OnSipXmpp} {action : Action}
    (none : object.LoginKeepsNone) (stepped : object.step action = some next) :
    next.LoginKeepsNone := by
  intro handler member
  by_cases starts : action.isStart
  · cases action with
    | start reading loginInfo =>
      obtain ⟨-, rfl⟩ := whenIdle_eq_some.mp stepped
      rw [drivers_start, List.mem_append, List.mem_singleton] at member
      rcases member with queued | rfl
      · exact none handler (List.mem_append_right _ queued)
      · rfl
    | _ => cases starts
  · have descends := drivers_step stepped (by simpa using starts)
    obtain ⟨earlier, inside, evolves⟩ := descends.exists_of_mem member
    exact evolves.currentEvent (none earlier inside)

theorem LoginKeepsNone.books_eq {object : OnSipXmpp} (none : object.LoginKeepsNone) :
    object.books = object.queuedEvents + object.heldEvents + object.xmpp.freed := by
  have login : (object.drivers.map InitStateHandler.held).sum = 0 := by
    refine List.sum_eq_zero fun amount member => ?_
    obtain ⟨handler, inside, rfl⟩ := List.mem_map.mp member
    rw [InitStateHandler.held, none handler inside]
    rfl
  rw [heldEvents, login, zero_add, queuedEvents, books, CallSystem.books, ledger]
  show _ = _ + object.calls.xmpp.freed
  abel

/-- What the login machine deletes is entered for the object. -/
theorem books_withInit {object : OnSipXmpp}
    {next : StateMachineBase InitStateHandler XmppEvent × Xmpp} {entry : Multiset XmppEvent}
    (entered : (next.1.events : Multiset XmppEvent) + next.2.freed =
      object.initStateMachine.events + object.xmpp.freed + entry) :
    (object.withInit next).books = object.books + entry := by
  have all : ∀ other : StateMachineBase InitStateHandler XmppEvent × Xmpp,
      (object.withInit other).books = object.calls.queuedEvents +
        (object.calls.callHandlers.map CallHandler.held).sum +
          (other.1.events + other.2.freed) := by
    intro other
    show (other.1.events : Multiset XmppEvent) + (object.calls.queuedEvents +
      ((object.calls.callHandlers.map CallHandler.held).sum + other.2.freed)) = _
    abel
  have same := all (object.initStateMachine, object.xmpp)
  rw [show object.withInit (object.initStateMachine, object.xmpp) = object from rfl] at same
  rw [all, entered, same]
  abel

/-- What the call machine enters is entered for the object. -/
theorem books_withCalls {object : OnSipXmpp} {calls : CallSystem} {entry : Multiset XmppEvent}
    (entered : calls.books = object.calls.books + entry) :
    ({ object with calls := calls } : OnSipXmpp).books = object.books + entry := by
  show object.initStateMachine.events + calls.books = _
  rw [entered, ← add_assoc, books]

/-- What is entered for the handlers of the login machine is what has been deleted. -/
theorem ledger_login (handlers : List InitStateHandler × Xmpp) :
    ledger (fun _ => 0) Xmpp.freed handlers = handlers.2.freed := by
  rw [ledger, List.map_const', List.sum_replicate, nsmul_zero, zero_add]

theorem books_pollInit {object : OnSipXmpp} (queues : object.LoginQueues)
    (readings : StateMachineBase.PollReadings) :
    (object.pollInit readings).books = object.books := by
  have whole : ∀ event ∈ object.initStateMachine.events, ∀ handler,
      InitStateHandler.entry event handler = {event} := by
    intro event member handler
    refine if_neg fun takes => ?_
    rw [InitStateHandler.TakesForAuth, queues.shutdown event member] at takes
    cases takes.1
  have polled := initVirtuals_accounts.pollMachine whole readings object.xmpp
  rw [ledger_login, ledger_login] at polled
  have same : (object.pollInit readings).books = object.books + 0 := by
    refine books_withInit ?_
    rw [add_zero, add_comm, polled, add_comm]
  exact same.trans (add_zero _)

theorem books_removeStateHandlers (object : OnSipXmpp) :
    object.removeStateHandlers.books = object.books := by
  have login := initVirtuals_accounts.removeStateHandlers object.initStateMachine.stateHandlers
    object.xmpp
  rw [ledger_login, ledger_login] at login
  have first : (object.withInit (object.initStateMachine.removeStateHandlers initVirtuals
      object.xmpp)).books = object.books + 0 := by
    refine books_withInit ?_
    rw [add_zero]
    exact congrArg (_ + ·) login
  have second : object.removeStateHandlers.books = (object.withInit
      (object.initStateMachine.removeStateHandlers initVirtuals object.xmpp)).books + 0 := by
    refine books_withCalls (CallSystem.books_withHandlers ?_)
    rw [add_zero]
    exact callVirtuals_accounts.removeStateHandlers object.calls.stateHandlers _
  rw [second, first, add_zero, add_zero]

/-- The call machine takes an event that the login machine has not handled, or the object deletes
it. -/
theorem books_signalCalls (readings : Readings) (event : XmppEvent) (object : OnSipXmpp) :
    (object.signalCalls readings event).books = object.books + {event} := by
  have entered : ledger CallHandler.held Xmpp.freed (StateMachine.signalEvent callVirtuals readings
      event false object.calls.stateHandlers object.xmpp).2 =
        ledger CallHandler.held Xmpp.freed (object.calls.stateHandlers, object.xmpp) +
          if (StateMachine.signalEvent callVirtuals readings event false object.calls.stateHandlers
            object.xmpp).1 then {event} else 0 := by
    rcases callVirtuals_accounts.signalEvent readings event false object.calls.stateHandlers
      object.xmpp with ⟨handler, -, handled, entered⟩ | ⟨-, entered⟩
    · rw [entered, handled, if_pos rfl]
    · rw [entered, Bool.or_false]
  unfold signalCalls
  split
  · rename_i next outcome
    rw [outcome, if_pos rfl] at entered
    exact books_withCalls (CallSystem.books_withHandlers entered)
  · rename_i handlers later outcome
    rw [outcome, if_neg Bool.false_ne_true, add_zero] at entered
    refine books_withCalls (CallSystem.books_withHandlers ?_)
    show ledger CallHandler.held Xmpp.freed (handlers, later.deleteEvent event) =
      ledger CallHandler.held Xmpp.freed (object.calls.stateHandlers, object.xmpp) + {event}
    rw [← entered, ledger, ledger, Xmpp.freed_deleteEvent, add_assoc]

/-- A signalled event is entered exactly when the login does not take it for the answer to its
authorization. -/
theorem books_signalEvent (initReadings callReadings : Readings) (event : XmppEvent)
    (object : OnSipXmpp) :
    (object.signalEvent initReadings callReadings event).books = object.books + {event} ↔
      ¬ TakenForAuth event object.initStateMachine.stateHandlers := by
  have offered := initVirtuals_accounts.signalEvent initReadings event false
    object.initStateMachine.stateHandlers object.xmpp
  simp only [ledger_login] at offered
  have login : ∀ {entry : Multiset XmppEvent},
      (StateMachine.signalEvent initVirtuals initReadings event false
        object.initStateMachine.stateHandlers object.xmpp).2.2.freed = object.xmpp.freed + entry →
      (object.withInit (object.initStateMachine.signalEvent initVirtuals initReadings event false
        object.xmpp).2).books = object.books + entry := by
    intro entry entered
    refine books_withInit ?_
    rw [add_assoc, ← entered]
    rfl
  rcases object.signalEvent_cases initReadings callReadings event with
    ⟨handled, same⟩ | ⟨refused, same⟩
  · dsimp only [StateMachineBase.signalEvent] at handled
    rw [same]
    rcases offered with ⟨handler, first, -, entered⟩ | ⟨refusing, entered⟩
    · rw [login entered, takenForAuth_firstAccepts first, add_right_inj,
        InitStateHandler.entry_eq_singleton]
    · rw [Bool.or_false, if_pos handled] at entered
      exact iff_of_true (login entered) (not_takenForAuth refusing)
  · dsimp only [StateMachineBase.signalEvent] at refused
    rw [same]
    rcases offered with ⟨handler, -, accepted, -⟩ | ⟨refusing, entered⟩
    · exact absurd (refused.symm.trans accepted) Bool.false_ne_true
    · rw [Bool.or_false, if_neg (Bool.eq_false_iff.mp refused)] at entered
      refine iff_of_true ?_ (not_takenForAuth refusing)
      rw [books_signalCalls, login entered, add_zero]

/-- A step enters exactly what it gives to the object, unless the login takes the event for the
answer to its authorization. -/
theorem books_step {object next : OnSipXmpp} {action : Action} (queues : object.LoginQueues)
    (stepped : object.step action = some next) :
    next.books = object.books + given action ↔ object.NotTakenForAuth action := by
  -- Everything but a signalled event is entered.
  have enters : ∀ {later : OnSipXmpp}, later.books = object.books →
      (later.books = object.books + 0 ↔ True) := by
    intro later same
    exact iff_of_true (same.trans (add_zero _).symm) trivial
  cases action with
  | call action =>
    obtain ⟨other, calls, called, rfl⟩ := step_call.mp stepped
    exact iff_of_true (books_withCalls (CallSystem.books_step other called)) trivial
  | pollInit readings =>
    obtain ⟨-, rfl⟩ := whenIdle_eq_some.mp stepped
    exact enters (books_pollInit queues readings)
  | signal initReadings callReadings event =>
    obtain ⟨-, rfl⟩ := whenIdle_eq_some.mp stepped
    exact books_signalEvent initReadings callReadings event object
  | start reading loginInfo =>
    obtain ⟨-, rfl⟩ := whenIdle_eq_some.mp stepped
    exact enters (books_removeStateHandlers object)
  | asyncShutdown =>
    obtain ⟨-, rfl⟩ := whenIdle_eq_some.mp stepped
    refine iff_of_true ?_ trivial
    show ↑(object.initStateMachine.events ++ [XmppEvent.newShutdownRequest]) + object.calls.books =
      object.initStateMachine.events + object.calls.books + {XmppEvent.newShutdownRequest}
    rw [← Multiset.coe_add, Multiset.coe_singleton]
    abel
  | cleanup =>
    obtain ⟨-, rfl⟩ := whenIdle_eq_some.mp stepped
    exact enters (books_removeStateHandlers object)
  | _ =>
    obtain ⟨-, rfl⟩ := whenIdle_eq_some.mp stepped
    exact enters rfl

/-- In every state that a run reaches the events are owned once, if and only if the login takes no
event of the run for the answer to its authorization. -/
theorem ownedOnce_iff {reading : Reading} {actions : List Action} {object : OnSipXmpp}
    (reached : run OnSipXmpp.step actions (new reading) = some object) :
    (∀ first rest middle, actions = first ++ rest →
      run OnSipXmpp.step first (new reading) = some middle → OwnedOnce first middle) ↔
    Along OnSipXmpp.step NotTakenForAuth actions (new reading) := by
  have preserved : ∀ state action next, OnSipXmpp.step state action = some next →
      state.LoginQueues ∧ state.LoginKeepsNone → next.LoginQueues ∧ next.LoginKeepsNone :=
    fun state action next stepped both => ⟨both.1.step stepped, both.2.step stepped⟩
  have start : (new reading).LoginQueues ∧ (new reading).LoginKeepsNone :=
    ⟨loginQueues_of_run (run_nil (new reading)), fun _ member => absurd member List.not_mem_nil⟩
  rw [← balances_iff_along preserved (fun state action next both stepped =>
    books_step both.1 stepped) start reached]
  refine forall₅_congr fun first rest middle split toMiddle => ?_
  have none := (run_invariant preserved toMiddle start).2
  rw [OwnedOnce, Balances, none.books_eq, show (new reading).books = 0 from rfl, zero_add]
  exact eq_comm

instance (event : XmppEvent) (handlers : List InitStateHandler) :
    Decidable (TakenForAuth event handlers) :=
  inferInstanceAs (Decidable (∃ handler, handler ∈ handlers.find? (·.awaitsReply event.context) ∧
    handler.TakesForAuth event))

instance (object : OnSipXmpp) (action : Action) : Decidable (object.NotTakenForAuth action) :=
  match action with
  | .signal _ _ _ => instDecidableNot
  | .call _ | .pollInit _ | .resetConnectLoop _ | .workerReply _ _ | .workerMessage _
  | .start _ _ | .asyncShutdown | .cleanup | .getInitEvents | .getCallEvents => instDecidableTrue

instance (actions : List Action) (object : OnSipXmpp) : Decidable (OwnedOnce actions object) :=
  inferInstanceAs (Decidable (_ = _))

/-- An event that was given once and waits in no queue has been deleted once and is kept by no
handler, or one handler keeps it and it has not been deleted. -/
theorem OwnedOnce.once {actions : List Action} {object : OnSipXmpp} {event : XmppEvent}
    (owned : OwnedOnce actions object) (once : (actions.map given).sum.count event = 1)
    (polled : event ∉ object.queuedEvents) :
    (object.xmpp.deletedEvents.count event = 1 ∧ object.heldEvents.count event = 0) ∨
      (object.xmpp.deletedEvents.count event = 0 ∧ object.heldEvents.count event = 1) := by
  have counted := congrArg (Multiset.count event) owned
  rw [once, Multiset.count_add, Multiset.count_add, Multiset.count_eq_zero_of_notMem polled,
    Xmpp.freed, Multiset.coe_count] at counted
  omega

/-! ### The other handlers -/

/-- The event changes no handler but the first of both machines that accepts it, apart from the
checks at the end: when one of the login accepts it, no call is offered it. -/
structure OnlyFirstChanges (initReadings callReadings : Readings) (event : XmppEvent)
    (object next : OnSipXmpp) : Prop where
  login : ∃ offered xmpp,
    StateMachine.OnlyFirst initVirtuals initReadings.offer event object.xmpp
      object.initStateMachine.stateHandlers offered ∧
    next.initStateMachine.stateHandlers =
      (StateMachine.checkStateHandlersExist initVirtuals initReadings.check offered xmpp).1
  calls : (∃ handler ∈ object.initStateMachine.stateHandlers,
      (handler.isYourEvent initReadings.offer event object.xmpp).1 = true) ∧
        next.calls.stateHandlers = object.calls.stateHandlers ∨
    (∀ handler ∈ object.initStateMachine.stateHandlers,
      (handler.isYourEvent initReadings.offer event object.xmpp).1 = false) ∧
      ∃ offered xmpp,
        StateMachine.OnlyFirst callVirtuals callReadings.offer event
          (object.initStateMachine.signalEvent initVirtuals initReadings event false
            object.xmpp).2.2 object.calls.stateHandlers offered ∧
        next.calls.stateHandlers =
          (StateMachine.checkStateHandlersExist callVirtuals callReadings.check offered xmpp).1

/-- The login machine handles an event exactly when one of its handlers accepts it. -/
theorem handled_signalInit (readings : Readings) (event : XmppEvent)
    (handlers : List InitStateHandler) (xmpp : Xmpp) :
    (StateMachine.signalEvent initVirtuals readings event false handlers xmpp).1 = true ↔
      ∃ handler ∈ handlers, (handler.isYourEvent readings.offer event xmpp).1 = true := by
  unfold StateMachine.signalEvent StateMachine.handleEvent
  rcases StateMachine.offer_cases refusesUnchanged_initVirtuals readings.offer event handlers
    xmpp with
    ⟨refusing, result⟩ | ⟨before, handler, after, next, later, rfl, refusing, accepts, result⟩
  · rw [result]
    refine iff_of_false Bool.false_ne_true ?_
    rintro ⟨handler, member, accepts⟩
    exact Bool.false_ne_true ((refusing handler member).symm.trans accepts)
  · rw [result]
    exact iff_of_true rfl ⟨handler, List.mem_append_right _ List.mem_cons_self,
      congrArg Prod.fst accepts⟩

theorem onlyFirstChanges (initReadings callReadings : Readings) (event : XmppEvent)
    (object : OnSipXmpp) : OnlyFirstChanges initReadings callReadings event object
      (object.signalEvent initReadings callReadings event) where
  login := by
    obtain ⟨offered, later, only, checked⟩ := StateMachine.signalsOnlyFirst
      refusesUnchanged_initVirtuals initReadings event false object.initStateMachine.stateHandlers
      object.xmpp
    refine ⟨offered, later, only, ?_⟩
    rw [initStateMachine_signalEvent, ← checked]
    rfl
  calls := by
    have handled := handled_signalInit initReadings event object.initStateMachine.stateHandlers
      object.xmpp
    rcases object.signalEvent_cases initReadings callReadings event with
      ⟨accepted, same⟩ | ⟨refused, same⟩
    · exact Or.inl ⟨handled.mp accepted, by rw [same]; rfl⟩
    · right
      dsimp only [StateMachineBase.signalEvent] at refused
      rw [refused] at handled
      refine ⟨fun handler member => ?_, ?_⟩
      · by_contra accepts
        exact Bool.false_ne_true (handled.mpr ⟨handler, member, by simpa using accepts⟩)
      · obtain ⟨offered, later, only, checked⟩ := StateMachine.signalsOnlyFirst
          CallHandler.refusesUnchanged_callVirtuals callReadings event false
          object.calls.stateHandlers (object.withInit (object.initStateMachine.signalEvent
            initVirtuals initReadings event false object.xmpp).2).xmpp
        refine ⟨offered, later, only, ?_⟩
        rw [same, ← checked]
        unfold signalCalls
        split <;> rename_i outcome
        · exact (congrArg (fun signalled => signalled.2.1) outcome).symm
        · exact (congrArg (fun signalled => signalled.2.1) outcome).symm

/-! ### Whole runs -/

/-- Who owns the events. Every handler of a call deletes an event that it accepts or keeps it in
place of the one before, and leaves everything as it is when it refuses one; a handler of the login
does the same exactly when it does not take a plain result for the answer to its authorization. So
in every state of a run each event waits, is kept by one handler or has been deleted, as often as it
was given, if and only if no event of the run is taken so. Of the handlers only the first that
accepts an event is changed by it. -/
theorem ownsEvents_iff {reading : Reading} {actions : List Action} {object : OnSipXmpp}
    (reached : run OnSipXmpp.step actions (new reading) = some object) :
    (∀ tick event xmpp,
      (∀ handler : CallHandler, OwnsEvent CallHandler.currentEvent event handler xmpp
        (handler.isYourEvent tick event xmpp)) ∧
      ∀ handler ∈ object.drivers, OwnsEvent InitStateHandler.currentEvent event handler xmpp
        (handler.isYourEvent tick event xmpp) ↔ ¬ handler.TakesForAuth event) ∧
    ((∀ first rest middle, actions = first ++ rest →
        run OnSipXmpp.step first (new reading) = some middle → OwnedOnce first middle) ↔
      Along OnSipXmpp.step NotTakenForAuth actions (new reading)) ∧
    (∀ initReadings callReadings event, OnlyFirstChanges initReadings callReadings event object
      (object.signalEvent initReadings callReadings event)) ∧
    StateMachine.SignalsOnlyFirst initVirtuals ∧ StateMachine.SignalsOnlyFirst callVirtuals := by
  have none : object.LoginKeepsNone :=
    run_invariant (fun _ _ _ stepped none => LoginKeepsNone.step none stepped) reached
      fun _ member => absurd member List.not_mem_nil
  refine ⟨fun tick event xmpp => ⟨fun handler => ?_, fun handler member => ?_⟩,
    ownedOnce_iff reached, fun initReadings callReadings event => ?_, ?_, ?_⟩
  · exact handler.ownsEvent_isYourEvent tick event xmpp
  · exact InitStateHandler.ownsEvent_iff (none handler member) tick event xmpp
  · exact object.onlyFirstChanges initReadings callReadings event
  · exact StateMachine.signalsOnlyFirst refusesUnchanged_initVirtuals
  · exact StateMachine.signalsOnlyFirst CallHandler.refusesUnchanged_callVirtuals

end OnSipXmpp

/-! ### Concrete runs -/

namespace Example

/-- The login succeeds, and a call comes in and is answered. -/
def answeredCall : List OnSipXmpp.Action :=
  logIn ++ [signalAt 400 (activeCall "a" "1" .requested),
    signalAt 410 (activeCall "a" "1" .confirmed)]

/-- The answer to the authorization is a plain result. -/
def plainResult : List OnSipXmpp.Action :=
  connect ++ [signalAt 310 ⟨[], false, 1, .iqResult⟩]

end Example

open OnSipXmpp in
/-- The handler of the call has deleted the first of its two events and keeps the second. -/
theorem ownsEvents_iff_answered :
    ∃ object, run step Example.answeredCall (new (Example.reading 0)) = some object ∧
      OwnedOnce Example.answeredCall object ∧
      object.heldEvents = {Example.activeCall "a" "1" .confirmed} := by
  have reached : run step Example.answeredCall (new (Example.reading 0)) = some _ := rfl
  refine ⟨_, reached, ?_, by decide⟩
  exact (ownsEvents_iff reached).2.1.mpr (by decide) Example.answeredCall [] _
    (List.append_nil _).symm reached

open OnSipXmpp in
/-- A plain result that the login takes for the answer to its authorization is neither deleted nor
kept. -/
theorem ownsEvents_plainResult :
    ¬ ∀ (reading : Reading) (actions : List Action) (object : OnSipXmpp),
      run step actions (new reading) = some object → OwnedOnce actions object := by
  intro claim
  have reached : run step Example.plainResult (new (Example.reading 0)) = some _ := rfl
  have owned := claim _ _ _ reached
  revert owned
  decide

end JnTapi
