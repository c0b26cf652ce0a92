/-
This file proves what becomes of the events that a state machine is given.

A handler that takes an event keeps it or deletes it, and the event that it kept
before goes when it takes another one or is itself deleted. So what the handlers
keep and what has been deleted make up a ledger: a call of the machine adds to it
the events that it is given, and nothing else changes it.
-/

import Mathlib.Algebra.BigOperators.Group.List.Basic
import Mathlib.Algebra.Order.Group.Multiset
import Mathlib.Tactic.Abel
import JnTapi.StateMachineBase

namespace JnTapi

variable {Handler Event Object : Type}

/-- What the handlers keep and what has been deleted -/
def ledger (held : Handler → Multiset Event) (freed : Object → Multiset Event)
    (state : List Handler × Object) : Multiset Event :=
  (state.1.map held).sum + freed state.2

/-- Every virtual function keeps the books: a handler that accepts an event enters what it takes of
it, a new handler keeps its event, and nothing is lost with what is deleted. -/
structure Virtuals.Accounts (virtuals : Virtuals Handler Event Object)
    (held : Handler → Multiset Event) (freed : Object → Multiset Event)
    (taken : Event → Handler → Multiset Event) : Prop where
  unchanged : StateMachine.RefusesUnchanged virtuals
  isYourEvent : ∀ reading handler event object,
    (virtuals.isYourEvent reading handler event object).1 = true →
      held (virtuals.isYourEvent reading handler event object).2.1 +
          freed (virtuals.isYourEvent reading handler event object).2.2 =
        held handler + freed object + taken event handler
  isStillExist : ∀ reading handler object,
    held (virtuals.isStillExist reading handler object).2.1 +
        freed (virtuals.isStillExist reading handler object).2.2 = held handler + freed object
  pollStateHandler : ∀ reading handler object,
    held (virtuals.pollStateHandler reading handler object).2.1 +
        freed (virtuals.pollStateHandler reading handler object).2.2 = held handler + freed object
  created : ∀ reading event object handler later,
    virtuals.unknownEvent reading event object = (some handler, later) →
      held handler + freed later = freed object + {event}
  unknown : ∀ reading event object later,
    virtuals.unknownEvent reading event object = (none, later) → freed later = freed object
  onStateChange : ∀ handler reason object,
    freed (virtuals.onStateChange handler reason object) = freed object
  preExecute : ∀ reading handler object,
    held (virtuals.preExecute reading handler object).2.1 +
        freed (virtuals.preExecute reading handler object).2.2 = held handler + freed object
  deleteEvent : ∀ event object, freed (virtuals.deleteEvent event object) = freed object + {event}
  deleteHandler : ∀ handler object,
    freed (virtuals.deleteHandler handler object) = held handler + freed object

section ledger

variable {held : Handler → Multiset Event} {freed : Object → Multiset Event}

theorem ledger_cons (handler : Handler) (rest : List Handler) (object : Object) :
    ledger held freed (handler :: rest, object) =
      held handler + ledger held freed (rest, object) := by
  rw [ledger, ledger, List.map_cons, List.sum_cons, add_assoc]

theorem ledger_append (first second : List Handler) (object : Object) :
    ledger held freed (first ++ second, object) =
      (first.map held).sum + ledger held freed (second, object) := by
  rw [ledger, ledger, List.map_append, List.sum_append, add_assoc]

theorem ledger_append_right (first second : List Handler) (object : Object) :
    ledger held freed (first ++ second, object) =
      ledger held freed (first, object) + (second.map held).sum := by
  rw [ledger, ledger, List.map_append, List.sum_append]
  abel

/-- The ledger depends on the object through what has been deleted only. -/
theorem ledger_congr {first second : Object} (handlers : List Handler)
    (same : freed first = freed second) :
    ledger held freed (handlers, first) = ledger held freed (handlers, second) := by
  rw [ledger, ledger, same]

/-- What a method enters for its own handler is entered for a list that begins with it. -/
theorem ledger_head {handler next : Handler} {object later : Object} {entry : Multiset Event}
    (entered : held next + freed later = held handler + freed object + entry)
    (rest : List Handler) :
    ledger held freed (next :: rest, later) =
      ledger held freed (handler :: rest, object) + entry := by
  have first : ∀ (other : Handler) (state : Object), ledger held freed (other :: rest, state) =
      (rest.map held).sum + (held other + freed state) := by
    intro other state
    rw [ledger_cons, ledger]
    abel
  rw [first, first, entered]
  abel

/-- The same when nothing is entered. -/
theorem ledger_head_same {handler next : Handler} {object later : Object}
    (same : held next + freed later = held handler + freed object) (rest : List Handler) :
    ledger held freed (next :: rest, later) = ledger held freed (handler :: rest, object) := by
  have entered : held next + freed later = held handler + freed object + 0 :=
    same.trans (add_zero _).symm
  rw [ledger_head entered rest, add_zero]

end ledger

namespace Virtuals.Accounts

variable {virtuals : Virtuals Handler Event Object} {held : Handler → Multiset Event}
  {freed : Object → Multiset Event} {taken : Event → Handler → Multiset Event}
  (accounts : virtuals.Accounts held freed taken)

include accounts

theorem checkStateHandlersExist (check : Nat → Reading) (handlers : List Handler)
    (object : Object) :
    ledger held freed (StateMachine.checkStateHandlersExist virtuals check handlers object) =
      ledger held freed (handlers, object) := by
  induction handlers generalizing check object with
  | nil => rfl
  | cons handler rest inductionHypothesis =>
    have checked := accounts.isStillExist (check 0) handler object
    rw [StateMachine.checkStateHandlersExist]
    split
    case h_1 next nextObject exists_ =>
      rw [exists_] at checked
      rw [ledger_cons, inductionHypothesis, ← ledger_cons]
      exact ledger_head_same checked rest
    case h_2 next nextObject gone =>
      rw [gone] at checked
      rw [inductionHypothesis, ← ledger_head_same checked rest, ledger_cons, ledger, ledger,
        accounts.deleteHandler, accounts.onStateChange]
      abel

/-- An event is entered as far as the first handler that accepts it takes it. When none does, it is
entered when a new handler keeps it or the machine deletes it. -/
theorem handleEvent (reading : Reading) (event : Event) (deleteEventData : Bool)
    (handlers : List Handler) (object : Object) :
    (∃ handler, StateMachine.FirstAccepts virtuals reading event object handlers handler ∧
      (StateMachine.handleEvent virtuals reading event deleteEventData handlers object).1 = true ∧
      ledger held freed
          (StateMachine.handleEvent virtuals reading event deleteEventData handlers object).2 =
        ledger held freed (handlers, object) + taken event handler) ∨
    ((∀ handler ∈ handlers, StateMachine.Refuses virtuals reading event object handler) ∧
      ledger held freed
          (StateMachine.handleEvent virtuals reading event deleteEventData handlers object).2 =
        ledger held freed (handlers, object) +
          if (StateMachine.handleEvent virtuals reading event deleteEventData handlers object).1 ||
            deleteEventData then {event} else 0) := by
  unfold StateMachine.handleEvent
  rcases StateMachine.offer_cases accounts.unchanged reading event handlers object with
    ⟨refusing, result⟩ | ⟨before, handler, after, next, later, rfl, refusing, accepts, result⟩
  · right
    refine ⟨refusing, ?_⟩
    rw [result]
    rcases made : virtuals.unknownEvent reading event object with ⟨_ | created, later⟩
    · have same := accounts.unknown reading event object later made
      simp only [made, Bool.false_or]
      cases deleteEventData with
      | true =>
        rw [if_pos rfl, if_pos rfl, ledger, ledger, accounts.deleteEvent, same, add_assoc]
      | false =>
        rw [if_neg Bool.false_ne_true, if_neg Bool.false_ne_true, add_zero]
        exact ledger_congr handlers same
    · have kept := accounts.created reading event object created later made
      simp only [made, Bool.true_or, if_true]
      rw [ledger_append, ledger_cons, ledger, ledger, List.map_nil, List.sum_nil, zero_add,
        accounts.onStateChange, kept, add_assoc]
  · left
    have accepted : (virtuals.isYourEvent reading handler event object).1 = true :=
      congrArg Prod.fst accepts
    have entered := accounts.isYourEvent reading handler event object accepted
    rw [accepts] at entered
    refine ⟨handler, ⟨before, after, rfl, refusing, accepted⟩, by rw [result], ?_⟩
    rw [result]
    dsimp only
    rw [ledger_append, ledger_append, ledger_congr _ (accounts.onStateChange next _ later),
      ledger_head entered after, add_assoc]

/-- The check of the handlers enters nothing more. -/
theorem signalEvent (readings : Readings) (event : Event) (deleteEventData : Bool)
    (handlers : List Handler) (object : Object) :
    (∃ handler, StateMachine.FirstAccepts virtuals readings.offer event object handlers handler ∧
      (StateMachine.signalEvent virtuals readings event deleteEventData handlers object).1 = true ∧
      ledger held freed
          (StateMachine.signalEvent virtuals readings event deleteEventData handlers object).2 =
        ledger held freed (handlers, object) + taken event handler) ∨
    ((∀ handler ∈ handlers, StateMachine.Refuses virtuals readings.offer event object handler) ∧
      ledger held freed
          (StateMachine.signalEvent virtuals readings event deleteEventData handlers object).2 =
        ledger held freed (handlers, object) +
          if (StateMachine.signalEvent virtuals readings event deleteEventData handlers object).1 ||
            deleteEventData then {event} else 0) := by
  unfold StateMachine.signalEvent
  dsimp only
  rw [accounts.checkStateHandlersExist]
  exact accounts.handleEvent readings.offer event deleteEventData handlers object

/-- An event that its taker takes whole, or that is deleted otherwise, is entered once. -/
theorem signalEvent_whole {event : Event} (whole : ∀ handler, taken event handler = {event})
    (readings : Readings) (handlers : List Handler) (object : Object) :
    ledger held freed
        (StateMachine.signalEvent virtuals readings event true handlers object).2 =
      ledger held freed (handlers, object) + {event} := by
  rcases accounts.signalEvent readings event true handlers object with
    ⟨handler, -, -, entered⟩ | ⟨-, entered⟩
  · rw [entered, whole]
  · rw [entered, Bool.or_true, if_pos rfl]

theorem signalEvents {events : List Event}
    (whole : ∀ event ∈ events, ∀ handler, taken event handler = {event})
    (readings : Nat → Readings) (handlers : List Handler) (object : Object) :
    ledger held freed
        (StateMachineBase.signalEvents virtuals readings events handlers object) =
      ledger held freed (handlers, object) + events := by
  induction events generalizing readings handlers object with
  | nil => exact (add_zero _).symm
  | cons event rest inductionHypothesis =>
    have tail := inductionHypothesis (fun other member =>
      whole other (List.mem_cons_of_mem _ member))
    rw [StateMachineBase.signalEvents, tail,
      accounts.signalEvent_whole (whole event List.mem_cons_self), add_assoc,
      Multiset.singleton_add, Multiset.cons_coe]

theorem pollUntilChange (poll : Nat → Reading) (handlers : List Handler) (object : Object) :
    ledger held freed (StateMachine.pollUntilChange virtuals poll handlers object) =
      ledger held freed (handlers, object) := by
  induction handlers generalizing poll object with
  | nil => rfl
  | cons handler rest inductionHypothesis =>
    have polled := accounts.pollStateHandler (poll 0) handler object
    rw [StateMachine.pollUntilChange]
    split
    case h_1 next nextObject changed =>
      rw [changed] at polled
      rw [ledger_congr _ (accounts.onStateChange next _ nextObject)]
      exact ledger_head_same polled rest
    case h_2 next nextObject same =>
      rw [same] at polled
      dsimp only
      rw [ledger_cons, inductionHypothesis, ← ledger_cons]
      exact ledger_head_same polled rest

theorem pollStateHandlers (readings : Readings) (handlers : List Handler) (object : Object) :
    ledger held freed (StateMachine.pollStateHandlers virtuals readings handlers object) =
      ledger held freed (handlers, object) := by
  rw [StateMachine.pollStateHandlers, accounts.checkStateHandlersExist, accounts.pollUntilChange]

theorem removeStateHandlers (handlers : List Handler) (object : Object) :
    ledger held freed (StateMachine.removeStateHandlers virtuals handlers object) =
      ledger held freed (handlers, object) := by
  show ledger held freed
    ([], handlers.foldl (fun object handler => virtuals.deleteHandler handler object) object) = _
  induction handlers generalizing object with
  | nil => rfl
  | cons handler rest inductionHypothesis =>
    rw [List.foldl_cons, inductionHypothesis, ledger_cons, ledger, ledger, accounts.deleteHandler]
    abel

/-- What a request keeps is entered when it is handled. -/
theorem handleRequest (readings : StateMachineBase.RequestReadings) (request : Handler)
    (handlers : List Handler) (object : Object) :
    ledger held freed (StateMachineBase.handleRequest virtuals readings request handlers object) =
      ledger held freed (handlers ++ [request], object) := by
  have executed : held (if virtuals.hasPreExecute request
        then virtuals.preExecute readings.preExecute request object
        else (true, request, object)).2.1 +
      freed (if virtuals.hasPreExecute request
        then virtuals.preExecute readings.preExecute request object
        else (true, request, object)).2.2 = held request + freed object := by
    split_ifs
    · exact accounts.preExecute readings.preExecute request object
    · rfl
  have last : ∀ {handler : Handler} {later : Object},
      held handler + freed later = held request + freed object →
      ledger held freed (handlers ++ [handler], later) =
        ledger held freed (handlers ++ [request], object) := by
    intro handler later same
    rw [ledger_append, ledger_append, ledger_head_same same []]
  have deleted : ∀ {handler : Handler} {later : Object},
      held handler + freed later = held request + freed object →
      ledger held freed (handlers, virtuals.deleteHandler handler later) =
        ledger held freed (handlers ++ [request], object) := by
    intro handler later same
    rw [← last same, ledger_append, ledger_cons, ledger, ledger, List.map_nil, List.sum_nil,
      zero_add, accounts.deleteHandler]
  unfold StateMachineBase.handleRequest
  split
  case h_1 next nextObject failed =>
    rw [failed] at executed
    exact deleted executed
  case h_2 next nextObject done =>
    rw [done] at executed
    have checked := accounts.isStillExist readings.check next nextObject
    split
    case h_1 added later exists_ =>
      rw [exists_] at checked
      rw [← last (checked.trans executed)]
      refine ledger_congr _ ?_
      show freed (if virtuals.hasPreExecute added then virtuals.onStateChange added _ later
        else later) = _
      split_ifs
      · exact accounts.onStateChange added _ later
      · rfl
    case h_2 gone later missing =>
      rw [missing] at checked
      exact deleted (checked.trans executed)

theorem handleRequests (readings : Nat → StateMachineBase.RequestReadings)
    (requests handlers : List Handler) (object : Object) :
    ledger held freed
        (StateMachineBase.handleRequests virtuals readings requests handlers object) =
      ledger held freed (handlers ++ requests, object) := by
  induction requests generalizing readings handlers object with
  | nil =>
    rw [List.append_nil]
    rfl
  | cons request rest inductionHypothesis =>
    rw [StateMachineBase.handleRequests, inductionHypothesis, ledger_append_right,
      accounts.handleRequest, ← ledger_append_right, List.append_assoc, List.singleton_append]

/-- A poll enters the events that it takes from the queue. -/
theorem pollMachine {machine : StateMachineBase Handler Event}
    (whole : ∀ event ∈ machine.events, ∀ handler, taken event handler = {event})
    (readings : StateMachineBase.PollReadings) (object : Object) :
    ledger held freed
        ((machine.pollStateHandlers virtuals readings object).1.stateHandlers ++
          (machine.pollStateHandlers virtuals readings object).1.handlerRequests,
          (machine.pollStateHandlers virtuals readings object).2) +
        (machine.pollStateHandlers virtuals readings object).1.events =
      ledger held freed (machine.stateHandlers ++ machine.handlerRequests, object) +
        machine.events := by
  have requests := machine.getRequests_append
  have events := machine.getRequests.2.getEvents_append
  rw [machine.events_getRequests] at events
  have inside : ∀ event ∈ machine.getRequests.2.getEvents.1, ∀ handler,
      taken event handler = {event} := fun event member =>
    whole event (events ▸ List.mem_append_left _ member)
  rw [StateMachineBase.pollStateHandlers_eq]
  dsimp only
  rw [StateMachineBase.handlerRequests_getEvents, ledger_append_right, ← requests, ← events,
    accounts.pollStateHandlers, accounts.signalEvents inside, accounts.handleRequests,
    ← List.append_assoc, ledger_append_right (machine.stateHandlers ++ _), ← Multiset.coe_add]
  abel

end Virtuals.Accounts

/-! ### The other handlers -/

namespace StateMachine

variable {virtuals : Virtuals Handler Event Object}

/-- The handlers once an event has been offered to them: the first that accepts it is what the event
makes of it, or all refuse it and there may be a new one. The others are as they were. -/
inductive OnlyFirst (virtuals : Virtuals Handler Event Object) (reading : Reading) (event : Event)
    (object : Object) : List Handler → List Handler → Prop
  | accepted {before after : List Handler} {handler : Handler}
      (refusing : ∀ earlier ∈ before, Refuses virtuals reading event object earlier)
      (accepts : (virtuals.isYourEvent reading handler event object).1 = true) :
      OnlyFirst virtuals reading event object (before ++ handler :: after)
        (before ++ (virtuals.isYourEvent reading handler event object).2.1 :: after)
  | refused {handlers : List Handler}
      (refusing : ∀ handler ∈ handlers, Refuses virtuals reading event object handler)
      (created : Option Handler) :
      OnlyFirst virtuals reading event object handlers (handlers ++ created.toList)

theorem onlyFirst_handleEvent (unchanged : RefusesUnchanged virtuals) (reading : Reading)
    (event : Event) (deleteEventData : Bool) (handlers : List Handler) (object : Object) :
    OnlyFirst virtuals reading event object handlers
      (handleEvent virtuals reading event deleteEventData handlers object).2.1 := by
  unfold handleEvent
  rcases offer_cases unchanged reading event handlers object with
    ⟨refusing, result⟩ | ⟨before, handler, after, next, later, rfl, refusing, accepts, result⟩
  · rw [result]
    rcases made : virtuals.unknownEvent reading event object with ⟨_ | created, later⟩
    · have none := OnlyFirst.refused refusing none
      rw [Option.toList_none, List.append_nil] at none
      simp only [made]
      exact none
    · simp only [made]
      exact .refused refusing (some created)
  · rw [result]
    have changed := @OnlyFirst.accepted _ _ _ virtuals reading event object before after handler
      refusing (congrArg Prod.fst accepts)
    rw [accepts] at changed
    exact changed

/-- An event changes no handler but the first that accepts it, apart from the check of all of them
at the end. -/
def SignalsOnlyFirst (virtuals : Virtuals Handler Event Object) : Prop :=
  ∀ (readings : Readings) (event : Event) (deleteEventData : Bool) (handlers : List Handler)
    (object : Object), ∃ offered later,
      OnlyFirst virtuals readings.offer event object handlers offered ∧
      (signalEvent virtuals readings event deleteEventData handlers object).2 =
        checkStateHandlersExist virtuals readings.check offered later

theorem signalsOnlyFirst (unchanged : RefusesUnchanged virtuals) : SignalsOnlyFirst virtuals :=
  fun readings event deleteEventData handlers object => ⟨_, _,
    onlyFirst_handleEvent unchanged readings.offer event deleteEventData handlers object, rfl⟩

end StateMachine

end JnTapi
