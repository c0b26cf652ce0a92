/-
This file models `StateMachine`, the template that the call machine and the
login machine share: a list of handlers, each with its own state, to which
events are offered in order.

A handler's methods run against the object that owns the machines. They take the
object as it is and give the object that they leave, so that the ids they draw,
the commands they send and the notifications they cause are all part of the
result. The virtual functions of a machine and of its handlers are the fields of
`Virtuals`.
-/

import JnTapi.Clock

namespace JnTapi

/-- `StateChangeReason::eOnStateChangeReason` -/
inductive StateChangeReason
  | isYourEventHandled
  | newHandlerCreated
  | removedHandler
  | pollHandler
  | addedHandler
deriving DecidableEq, Repr

/-! ### State items -/

/-- `StateItem` -/
structure StateItem (State Event StateData : Type) where
  state : State
  eventData : Option Event
  stateData : StateData
  lastStateChange : Dword
deriving DecidableEq, Repr

namespace StateItem

variable {State Event StateData : Type}

/-- `StateItem::assignNewState`. The event held before is deleted by the caller's object. -/
def assignNewState (reading : Reading) (state : State) (eventData : Option Event)
    (item : StateItem State Event StateData) : StateItem State Event StateData :=
  { item with state := state, eventData := eventData, lastStateChange := reading.tickCount }

/-- `StateItem::MsecsSinceLastStateChange` -/
def msecsSinceLastStateChange (reading : Reading) (item : StateItem State Event StateData) : Int :=
  (reading.tickCount - item.lastStateChange).toInt

end StateItem

/-! ### The virtual functions -/

/-- The virtual functions of a state machine and of its handlers, and the deletion of what they
own. -/
structure Virtuals (Handler Event Object : Type) where
  isYourEvent : Reading → Handler → Event → Object → Bool × Handler × Object
  isStillExist : Reading → Handler → Object → Bool × Handler × Object
  pollStateHandler : Reading → Handler → Object → Bool × Handler × Object
  unknownEvent : Reading → Event → Object → Option Handler × Object
  onStateChange : Handler → StateChangeReason → Object → Object
  hasPreExecute : Handler → Bool
  preExecute : Reading → Handler → Object → Bool × Handler × Object
  deleteEvent : Event → Object → Object
  deleteHandler : Handler → Object → Object

/-- The readings of one call of a state machine: one for the handlers that are offered an event,
and one for each handler that is polled or checked, counted along the list. -/
structure Readings where
  offer : Reading
  poll : Nat → Reading
  check : Nat → Reading

namespace Readings

/-- The readings of a call during which nothing that is read changes. -/
def still (reading : Reading) : Readings := ⟨reading, fun _ => reading, fun _ => reading⟩

end Readings

namespace StateMachine

variable {Handler Event Object : Type} (virtuals : Virtuals Handler Event Object)

/-! ### The functions of the machine -/

/-- `StateMachine::_checkStateHandlersExist` -/
def checkStateHandlersExist (check : Nat → Reading) :
    List Handler → Object → List Handler × Object
  | [], object => ([], object)
  | handler :: rest, object =>
    match virtuals.isStillExist (check 0) handler object with
    | (true, handler, object) =>
      let checked := checkStateHandlersExist (fun count => check (count + 1)) rest object
      (handler :: checked.1, checked.2)
    | (false, handler, object) =>
      checkStateHandlersExist (fun count => check (count + 1)) rest
        (virtuals.deleteHandler handler (virtuals.onStateChange handler .removedHandler object))

/-- The loop of `StateMachine::SignalEvent` over the handlers. Its first result is the position
of the handler that accepted the event, if there is one. -/
def offer (reading : Reading) (event : Event) :
    List Handler → Object → Option Nat × List Handler × Object
  | [], object => (none, [], object)
  | handler :: rest, object =>
    match virtuals.isYourEvent reading handler event object with
    | (true, handler, object) =>
      (some 0, handler :: rest, virtuals.onStateChange handler .isYourEventHandled object)
    | (false, handler, object) =>
      let offered := offer reading event rest object
      (offered.1.map (· + 1), handler :: offered.2.1, offered.2.2)

/-- `StateMachine::SignalEvent` before the check of the handlers: whether the event was handled,
and what it leaves. -/
def handleEvent (reading : Reading) (event : Event) (deleteEventData : Bool)
    (handlers : List Handler) (object : Object) : Bool × List Handler × Object :=
  match offer virtuals reading event handlers object with
  | (some _, handlers, object) => (true, handlers, object)
  | (none, handlers, object) =>
    match virtuals.unknownEvent reading event object with
    | (some handler, object) =>
      (true, handlers ++ [handler], virtuals.onStateChange handler .newHandlerCreated object)
    | (none, object) =>
      (false, handlers, if deleteEventData then virtuals.deleteEvent event object else object)

/-- `StateMachine::SignalEvent` -/
def signalEvent (readings : Readings) (event : Event) (deleteEventData : Bool)
    (handlers : List Handler) (object : Object) : Bool × List Handler × Object :=
  let handled := handleEvent virtuals readings.offer event deleteEventData handlers object
  (handled.1, checkStateHandlersExist virtuals readings.check handled.2.1 handled.2.2)

/-- The loop of `StateMachine::PollStateHandlers` over the handlers: it stops at the first one
that reports a change. -/
def pollUntilChange (poll : Nat → Reading) : List Handler → Object → List Handler × Object
  | [], object => ([], object)
  | handler :: rest, object =>
    match virtuals.pollStateHandler (poll 0) handler object with
    | (true, handler, object) =>
      (handler :: rest, virtuals.onStateChange handler .pollHandler object)
    | (false, handler, object) =>
      let polled := pollUntilChange (fun count => poll (count + 1)) rest object
      (handler :: polled.1, polled.2)

/-- `StateMachine::PollStateHandlers` -/
def pollStateHandlers (readings : Readings) (handlers : List Handler) (object : Object) :
    List Handler × Object :=
  let polled := pollUntilChange virtuals readings.poll handlers object
  checkStateHandlersExist virtuals readings.check polled.1 polled.2

/-- `StateMachine::AddStateHandler` -/
def addStateHandler (handler : Handler) (notifyState : Bool) (handlers : List Handler)
    (object : Object) : List Handler × Object :=
  (handlers ++ [handler],
    if notifyState then virtuals.onStateChange handler .addedHandler object else object)

/-- `StateMachine::RemoveStateHandlers` -/
def removeStateHandlers (handlers : List Handler) (object : Object) : List Handler × Object :=
  ([], handlers.foldl (fun object handler => virtuals.deleteHandler handler object) object)

/-! ### Rules for the loops -/

/-- The rule of the existence check. What holds of the handlers already checked, those still to
check and the object, and is kept when a handler stays and when one is removed, holds at the
end. -/
theorem checkStateHandlersExist_rule (invariant : List Handler → List Handler → Object → Prop)
    (stays : ∀ done handler rest object reading next nextObject,
      invariant done (handler :: rest) object →
      virtuals.isStillExist reading handler object = (true, next, nextObject) →
      invariant (done ++ [next]) rest nextObject)
    (removed : ∀ done handler rest object reading next nextObject,
      invariant done (handler :: rest) object →
      virtuals.isStillExist reading handler object = (false, next, nextObject) →
      invariant done rest
        (virtuals.deleteHandler next (virtuals.onStateChange next .removedHandler nextObject)))
    (check : Nat → Reading) (done handlers : List Handler) (object : Object)
    (start : invariant done handlers object) :
    invariant (done ++ (checkStateHandlersExist virtuals check handlers object).1) []
      (checkStateHandlersExist virtuals check handlers object).2 := by
  induction handlers generalizing check done object with
  | nil =>
    rw [checkStateHandlersExist, List.append_nil]
    exact start
  | cons handler rest inductionHypothesis =>
    rw [checkStateHandlersExist]
    split
    case h_1 next nextObject exists_ =>
      have tail := inductionHypothesis (fun count => check (count + 1)) (done ++ [next]) nextObject
        (stays done handler rest object (check 0) next nextObject start exists_)
      rw [List.append_assoc] at tail
      exact tail
    case h_2 next nextObject gone =>
      exact inductionHypothesis (fun count => check (count + 1)) done _
        (removed done handler rest object (check 0) next nextObject start gone)

variable {virtuals}

/-- A handler that refuses an event leaves itself and the object as they are. -/
def RefusesUnchanged (virtuals : Virtuals Handler Event Object) : Prop :=
  ∀ reading handler event object, (virtuals.isYourEvent reading handler event object).1 = false →
    virtuals.isYourEvent reading handler event object = (false, handler, object)

/-- The handler refuses the event. -/
def Refuses (virtuals : Virtuals Handler Event Object) (reading : Reading) (event : Event)
    (object : Object) (handler : Handler) : Prop :=
  (virtuals.isYourEvent reading handler event object).1 = false

/-- The handler is the first that accepts the event. -/
def FirstAccepts (virtuals : Virtuals Handler Event Object) (reading : Reading) (event : Event)
    (object : Object) (handlers : List Handler) (handler : Handler) : Prop :=
  ∃ before after, handlers = before ++ handler :: after ∧
    (∀ earlier ∈ before, Refuses virtuals reading event object earlier) ∧
      (virtuals.isYourEvent reading handler event object).1 = true

/-- Handlers before the first that accepts refuse the event and are left as they are. -/
theorem offer_append_refusing (unchanged : RefusesUnchanged virtuals) {reading : Reading}
    {event : Event} {before rest : List Handler} {object : Object}
    (refusing : ∀ handler ∈ before, Refuses virtuals reading event object handler) :
    offer virtuals reading event (before ++ rest) object =
      ((offer virtuals reading event rest object).1.map (· + before.length),
        before ++ (offer virtuals reading event rest object).2.1,
        (offer virtuals reading event rest object).2.2) := by
  induction before with
  | nil =>
    simp only [List.nil_append, List.length_nil, Nat.add_zero, Option.map_id', Prod.mk.eta]
  | cons handler before inductionHypothesis =>
    have first := unchanged reading handler event object (refusing handler List.mem_cons_self)
    have tail := inductionHypothesis fun other member =>
      refusing other (List.mem_cons_of_mem _ member)
    simp only [List.cons_append, offer, first, tail, Option.map_map, List.length_cons]
    rfl

/-- The first handler that accepts an event is the one that changes, and its state is notified. -/
theorem signalEvent_accepted (unchanged : RefusesUnchanged virtuals) {readings : Readings}
    {event : Event} {before after : List Handler} {handler next : Handler}
    {object nextObject : Object} (deleteEventData : Bool)
    (refusing : ∀ earlier ∈ before, Refuses virtuals readings.offer event object earlier)
    (accepts : virtuals.isYourEvent readings.offer handler event object =
      (true, next, nextObject)) :
    signalEvent virtuals readings event deleteEventData (before ++ handler :: after) object =
      (true, checkStateHandlersExist virtuals readings.check (before ++ next :: after)
        (virtuals.onStateChange next .isYourEventHandled nextObject)) := by
  have first : offer virtuals readings.offer event (handler :: after) object =
      (some 0, next :: after, virtuals.onStateChange next .isYourEventHandled nextObject) := by
    rw [offer, accepts]
  rw [signalEvent, handleEvent, offer_append_refusing unchanged refusing, first]
  rfl

/-- What the loop over the handlers does: all refuse and nothing changes, or the first that
accepts is replaced by what the event makes of it and its state is notified. -/
theorem offer_cases (unchanged : RefusesUnchanged virtuals) (reading : Reading) (event : Event)
    (handlers : List Handler) (object : Object) :
    ((∀ handler ∈ handlers, Refuses virtuals reading event object handler) ∧
      offer virtuals reading event handlers object = (none, handlers, object)) ∨
    ∃ before handler after next nextObject, handlers = before ++ handler :: after ∧
      (∀ earlier ∈ before, Refuses virtuals reading event object earlier) ∧
      virtuals.isYourEvent reading handler event object = (true, next, nextObject) ∧
      offer virtuals reading event handlers object =
        (some before.length, before ++ next :: after,
          virtuals.onStateChange next .isYourEventHandled nextObject) := by
  induction handlers with
  | nil => exact Or.inl ⟨fun _ member => absurd member List.not_mem_nil, rfl⟩
  | cons handler rest inductionHypothesis =>
    rcases outcome : virtuals.isYourEvent reading handler event object with
      ⟨accepted, next, nextObject⟩
    cases accepted with
    | true =>
      refine Or.inr ⟨[], handler, rest, next, nextObject, rfl,
        fun _ member => absurd member List.not_mem_nil, outcome, ?_⟩
      rw [offer, outcome]
      rfl
    | false =>
      have refuses : Refuses virtuals reading event object handler := by
        rw [Refuses, outcome]
      have first := unchanged reading handler event object refuses
      rcases inductionHypothesis with
        ⟨refusing, same⟩ | ⟨before, other, after, next, nextObject, rfl, refusing, accepts, same⟩
      · refine Or.inl ⟨?_, ?_⟩
        · intro earlier member
          rcases List.mem_cons.mp member with rfl | member
          · exact refuses
          · exact refusing earlier member
        · simp only [offer, first, same, Option.map_none]
      · refine Or.inr ⟨handler :: before, other, after, next, nextObject, rfl, ?_, accepts, ?_⟩
        · intro earlier member
          rcases List.mem_cons.mp member with rfl | member
          · exact refuses
          · exact refusing earlier member
        · simp only [List.cons_append, offer, first, same, Option.map_some, List.length_cons]

theorem map_succ_eq_some_succ {position : Option Nat} {index : Nat} :
    position.map (· + 1) = some (index + 1) ↔ position = some index := by
  cases position <;> simp

/-- The handler that accepts is the first that does. -/
theorem offer_fst_eq_some_iff (unchanged : RefusesUnchanged virtuals) {reading : Reading}
    {event : Event} {handlers : List Handler} {object : Object} {position : Nat} :
    (offer virtuals reading event handlers object).1 = some position ↔
      (∃ handler, handlers[position]? = some handler ∧
        (virtuals.isYourEvent reading handler event object).1 = true) ∧
        ∀ earlier ∈ handlers.take position, Refuses virtuals reading event object earlier := by
  induction handlers generalizing position with
  | nil => simp [offer]
  | cons handler rest inductionHypothesis =>
    rcases outcome : virtuals.isYourEvent reading handler event object with
      ⟨accepted, next, nextObject⟩
    cases accepted with
    | true =>
      rw [offer, outcome]
      cases position with
      | zero => simp [outcome]
      | succ position => simp [outcome, Refuses]
    | false =>
      have refuses : Refuses virtuals reading event object handler := by rw [Refuses, outcome]
      have first := unchanged reading handler event object refuses
      simp only [offer, first]
      cases position with
      | zero => simp [outcome]
      | succ position =>
        rw [map_succ_eq_some_succ, inductionHypothesis, List.getElem?_cons_succ,
          List.take_succ_cons, List.forall_mem_cons, and_iff_right refuses]

/-- The handler that accepts is what the event makes of it, and every other one stays. -/
theorem getElem?_offer (unchanged : RefusesUnchanged virtuals) (reading : Reading) (event : Event)
    (handlers : List Handler) (object : Object) (position : Nat) :
    (offer virtuals reading event handlers object).2.1[position]? =
      if (offer virtuals reading event handlers object).1 = some position then
        handlers[position]?.map fun handler =>
          (virtuals.isYourEvent reading handler event object).2.1
      else handlers[position]? := by
  induction handlers generalizing position with
  | nil => simp [offer]
  | cons handler rest inductionHypothesis =>
    rcases outcome : virtuals.isYourEvent reading handler event object with
      ⟨accepted, next, nextObject⟩
    cases accepted with
    | true =>
      rw [offer, outcome]
      cases position with
      | zero => simp [outcome]
      | succ position => simp
    | false =>
      have first := unchanged reading handler event object (by rw [outcome])
      simp only [offer, first]
      cases position with
      | zero => simp
      | succ position =>
        rw [List.getElem?_cons_succ, List.getElem?_cons_succ, inductionHypothesis]
        simp only [map_succ_eq_some_succ]

/-- The first handler reports a change, and the loop stops. -/
theorem pollUntilChange_changed {poll : Nat → Reading} {handler next : Handler}
    {rest : List Handler} {object later : Object}
    (polls : virtuals.pollStateHandler (poll 0) handler object = (true, next, later)) :
    pollUntilChange virtuals poll (handler :: rest) object =
      (next :: rest, virtuals.onStateChange next .pollHandler later) := by
  rw [pollUntilChange, polls]

/-- The first handler reports no change, and the loop goes on. -/
theorem pollUntilChange_same {poll : Nat → Reading} {handler next : Handler}
    {rest : List Handler} {object later : Object}
    (polls : virtuals.pollStateHandler (poll 0) handler object = (false, next, later)) :
    pollUntilChange virtuals poll (handler :: rest) object =
      (next :: (pollUntilChange virtuals (fun count => poll (count + 1)) rest later).1,
        (pollUntilChange virtuals (fun count => poll (count + 1)) rest later).2) := by
  rw [pollUntilChange, polls]

/-- When no handler reports a change, polling leaves the handlers and the object as they are. -/
theorem pollUntilChange_idle
    (idle : ∀ reading handler object,
      virtuals.pollStateHandler reading handler object = (false, handler, object))
    (poll : Nat → Reading) (handlers : List Handler) (object : Object) :
    pollUntilChange virtuals poll handlers object = (handlers, object) := by
  induction handlers generalizing poll with
  | nil => rfl
  | cons handler rest inductionHypothesis =>
    simp only [pollUntilChange, idle, inductionHypothesis]

end StateMachine

end JnTapi
