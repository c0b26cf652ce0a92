/-
This file proves when the call machine sends a command to the server.

A handler dials in `PreExecute`, when its request is handled, and it terminates its
branches in answer to a request to drop its call. Nothing that the connection
delivers makes it send a command.
-/

import JnTapi.Call.System
import JnTapi.Call.Facts

namespace JnTapi

/-- Deleting an event, and notifying the observers of the calls -/
inductive Effect.Routine : Effect → Prop
  | deleted (event : XmppEvent) : Routine (.deleted event)
  | notified (notification : CallNotification) : Routine (.callStateChange notification)

/-- What the call machine does to the outside with an event: besides its routine, a request to drop
a call makes it terminate branches. -/
inductive XmppEvent.Answer (event : XmppEvent) : Effect → Prop
  | routine {effect : Effect} (routine : effect.Routine) : Answer event effect
  | terminate {callId : Long} (request : event.data = .dropRequest callId) (contextId : Long)
      (sipCallId fromTag toTag : TString) :
      Answer event (.terminate contextId sipCallId fromTag toTag)

theorem Effect.Routine.isCallCommand_eq {effect : Effect} (routine : effect.Routine) :
    effect.isCallCommand = false := by
  cases routine <;> rfl

theorem XmppEvent.Answer.isCallCommand_eq {event : XmppEvent} {effect : Effect}
    (answer : event.Answer effect) (other : ∀ callId, event.data ≠ .dropRequest callId) :
    effect.isCallCommand = false := by
  cases answer with
  | routine routine => exact routine.isCallCommand_eq
  | terminate request => exact absurd request (other _)

namespace CallHandler

/-! ### The answer of a handler to an event -/

section answer

variable {event : XmppEvent}

theorem emits_deleteEvent (other : XmppEvent) (xmpp : Xmpp) :
    xmpp.Emits event.Answer (xmpp.deleteEvent other) :=
  Xmpp.Emits.emit (.routine (.deleted other)) xmpp

theorem emits_assignNewState (reading : Reading) (state : CallStates)
    (eventData : Option XmppEvent) (handler : CallHandler) (xmpp : Xmpp) :
    xmpp.Emits event.Answer (handler.assignNewState reading state eventData xmpp).2 := by
  show xmpp.Emits event.Answer (xmpp.release handler.currentState.eventData)
  cases handler.currentState.eventData with
  | none => exact Xmpp.Emits.refl xmpp
  | some held => exact emits_deleteEvent held xmpp

theorem emits_dropBranches {callId : Long} (request : event.data = .dropRequest callId)
    (branches : List OnSipCallStateData) (handler : CallHandler) (xmpp : Xmpp) :
    xmpp.Emits event.Answer (dropBranches branches handler xmpp).2 := by
  induction branches generalizing handler xmpp with
  | nil => exact Xmpp.Emits.refl xmpp
  | cons branch rest inductionHypothesis =>
    have dropped : xmpp.Emits event.Answer (dropCall branch xmpp).2 :=
      Xmpp.Emits.trans (.of_eq rfl) (.emit (.terminate request _ _ _ _) xmpp.getUniqueId.2)
    exact dropped.trans (inductionHypothesis _ _)

theorem emits_dropRequestOrReply (reading : Reading) (handler : CallHandler) (xmpp : Xmpp) :
    xmpp.Emits event.Answer (handler.dropRequestOrReply reading event xmpp).2.2 := by
  unfold dropRequestOrReply checkDropRequestEvent checkIqReplyDropRequest
  cases data : event.data with
  | dropRequest callId =>
    by_cases same : callId = handler.callId
    · simp only [ne_eq, same, not_true_eq_false, if_false]
      exact (emits_dropBranches data handler.branches.branches handler xmpp).trans
        ((emits_assignNewState reading .preDropCall none _ _).trans (emits_deleteEvent event _))
    · simp only [ne_eq, same, not_false_eq_true, if_true]
      exact Xmpp.Emits.refl xmpp
  | iqResult =>
    by_cases member : event.context ∈ handler.droppedContextIds
    · simp only [if_pos member]
      exact emits_deleteEvent event xmpp
    · simp only [if_neg member]
      exact Xmpp.Emits.refl xmpp
  | _ => exact Xmpp.Emits.refl xmpp

theorem emits_makeCallActiveCall (make : MakeCallData) (reading : Reading) (handler : CallHandler)
    (ace : ActiveCall) (xmpp : Xmpp) :
    xmpp.Emits event.Answer (handler.makeCallActiveCall make reading event ace xmpp).2.2 := by
  have changed : ∀ state : CallStates, xmpp.Emits event.Answer
      (handler.assignNewState reading state (some event) xmpp).2 := fun state =>
    emits_assignNewState reading state (some event) handler xmpp
  unfold makeCallActiveCall
  split_ifs
  · exact changed .makeCallRequested
  · exact emits_deleteEvent event xmpp
  · exact changed .makeCallRequestedAnswered
  · exact changed .dropped
  · exact changed .makeCallOutgoingCreated
  · exact changed .dropped
  · exact changed .connected
  · exact changed .dropped
  · exact emits_deleteEvent event xmpp

/-- What a handler does with an event is an answer to it. -/
theorem emits_isYourEvent (reading : Reading) (handler : CallHandler) (xmpp : Xmpp) :
    xmpp.Emits event.Answer (handler.isYourEvent reading event xmpp).2.2 := by
  have refused : xmpp.Emits event.Answer xmpp := Xmpp.Emits.refl xmpp
  have changed : ∀ (state : CallStates) (next : CallHandler), xmpp.Emits event.Answer
      (assignNewState reading state (some event) next xmpp).2 := fun state next =>
    emits_assignNewState reading state (some event) next xmpp
  have deleted : xmpp.Emits event.Answer (xmpp.deleteEvent event) := emits_deleteEvent event xmpp
  unfold isYourEvent
  cases handler.kind with
  | outgoing =>
    dsimp only
    unfold outgoingIsYourEvent
    split
    · split_ifs
      · exact refused
      · exact changed .connected _
      · exact deleted
    · split_ifs
      · exact refused
      · exact changed .dropped _
    · exact emits_dropRequestOrReply reading handler xmpp
  | incoming =>
    dsimp only
    unfold incomingIsYourEvent
    split
    · split_ifs
      · exact refused
      · exact changed .connected _
      · exact deleted
    · split_ifs
      · exact refused
      · split
        · exact changed .dropped _
        · exact deleted
    · exact emits_dropRequestOrReply reading handler xmpp
  | makeCall make =>
    dsimp only
    unfold makeCallIsYourEvent
    split
    · split_ifs
      · exact refused
      · exact changed .dropped handler
      · exact emits_makeCallActiveCall make reading _ _ xmpp
    · split_ifs
      · split
        · exact changed .dropped _
        · exact deleted
      · exact changed .dropped handler
      · exact deleted
    · split_ifs
      · exact changed .dropped handler
      · exact deleted
      · exact refused
    · exact emits_dropRequestOrReply reading handler xmpp

end answer

/-! ### The machine -/

theorem emits_release (held : Option XmppEvent) (xmpp : Xmpp) :
    xmpp.Emits Effect.Routine (xmpp.release held) := by
  cases held with
  | none => exact Xmpp.Emits.refl xmpp
  | some event => exact Xmpp.Emits.emit (.deleted event) xmpp

theorem emits_onStateChange (handler : CallHandler) (reason : StateChangeReason) (xmpp : Xmpp) :
    xmpp.Emits Effect.Routine (handler.onStateChange reason xmpp) :=
  ⟨_, rfl, fun _ member => List.mem_singleton.mp member ▸ .notified _⟩

theorem emits_checkStateHandlersExist (check : Nat → Reading) (handlers : List CallHandler)
    (xmpp : Xmpp) : xmpp.Emits Effect.Routine
      (StateMachine.checkStateHandlersExist callVirtuals check handlers xmpp).2 := by
  refine checkStateHandlersExist_rule (fun _ _ object => xmpp.Emits Effect.Routine object)
    (fun _ _ _ _ before _ => before) ?_ ?_ check handlers xmpp (Xmpp.Emits.refl xmpp)
  · intro done handler rest object reading before alive lapsed
    exact before.trans (emits_release handler.currentState.eventData object)
  · intro done handler rest object before dropped
    exact before.trans ((emits_onStateChange handler .removedHandler object).trans
      (emits_release handler.currentState.eventData _))

theorem emits_pollStateHandlers (readings : Readings) (handlers : List CallHandler)
    (xmpp : Xmpp) : xmpp.Emits Effect.Routine
      (StateMachine.pollStateHandlers callVirtuals readings handlers xmpp).2 := by
  rw [pollStateHandlers_eq]
  exact emits_checkStateHandlersExist readings.check handlers xmpp

theorem emits_removeStateHandlers (handlers : List CallHandler) (xmpp : Xmpp) :
    xmpp.Emits Effect.Routine
      (StateMachine.removeStateHandlers callVirtuals handlers xmpp).2 := by
  show xmpp.Emits _ (handlers.foldl (fun xmpp handler => handler.deleteHandler xmpp) xmpp)
  induction handlers generalizing xmpp with
  | nil => exact Xmpp.Emits.refl xmpp
  | cons handler rest inductionHypothesis =>
    exact (emits_release handler.currentState.eventData xmpp).trans (inductionHypothesis _)

/-- What the machine does with an event is an answer to it. -/
theorem emits_signalEvent (readings : Readings) (event : XmppEvent) (deleteEventData : Bool)
    (handlers : List CallHandler) (xmpp : Xmpp) : xmpp.Emits event.Answer
      (StateMachine.signalEvent callVirtuals readings event deleteEventData handlers xmpp).2.2 := by
  have handled : xmpp.Emits event.Answer (StateMachine.handleEvent callVirtuals readings.offer event
      deleteEventData handlers xmpp).2.2 := by
    rcases handleEvent_cases readings.offer event deleteEventData handlers xmpp with
      ⟨before, handler, after, next, later, rfl, -, accepts, result⟩ |
      ⟨-, handler, created, -, result⟩ | ⟨-, unknown, result⟩
    · rw [result]
      have answered := @emits_isYourEvent event readings.offer handler xmpp
      rw [accepts] at answered
      exact answered.trans ((emits_onStateChange next .isYourEventHandled later).mono
        fun _ => .routine)
    · rw [result]
      exact Xmpp.Emits.trans (.of_eq rfl)
        ((emits_onStateChange handler .newHandlerCreated xmpp.getUniqueId.2).mono
          fun _ => .routine)
    · rw [result]
      dsimp only
      split_ifs
      · exact emits_deleteEvent event xmpp
      · exact Xmpp.Emits.refl xmpp
  exact handled.trans ((emits_checkStateHandlersExist readings.check _ _).mono fun _ => .routine)

end CallHandler

/-- What a step of the machine and its threads does to the outside: it handles a request, or answers
the event that it signals, or goes about its routine. -/
theorem CallSystem.emits_step {system next : CallSystem} {action : CallAction}
    (stepped : system.step action = some next) :
    (∃ readings request rest, action = .handleRequest readings ∧
      system.polling = .handlingRequests (request :: rest)) ∨
    (∃ readings event deleteEventData,
      system.signalOf action = some (readings, event, deleteEventData) ∧
        system.xmpp.Emits event.Answer next.xmpp) ∨
    system.xmpp.Emits Effect.Routine next.xmpp := by
  have same : next.xmpp.effects = system.xmpp.effects →
      system.xmpp.Emits Effect.Routine next.xmpp := Xmpp.Emits.of_eq
  cases action with
  | drawId | drawCallId | dropCallAsync | addEvent =>
    obtain rfl := Option.some.inj stepped
    exact Or.inr (Or.inr (same rfl))
  | addCallHandler index reading =>
    obtain ⟨callId, phoneNumber, -, rfl⟩ := step_addCallHandler.mp stepped
    exact Or.inr (Or.inr (same rfl))
  | signalEvent readings event deleteEventData =>
    obtain ⟨-, rfl⟩ := step_signalEvent.mp stepped
    exact Or.inr (Or.inl ⟨readings, event, deleteEventData, rfl, CallHandler.emits_signalEvent
      readings event deleteEventData system.stateHandlers system.xmpp⟩)
  | testRequests =>
    obtain ⟨-, rfl⟩ := step_testRequests.mp stepped
    exact Or.inr (Or.inr (same rfl))
  | takeRequests =>
    obtain ⟨-, rfl⟩ := step_takeRequests.mp stepped
    exact Or.inr (Or.inr (same rfl))
  | handleRequest readings =>
    obtain ⟨request, rest, pending, -⟩ := step_handleRequest.mp stepped
    exact Or.inl ⟨readings, request, rest, rfl, pending⟩
  | testEvents =>
    obtain ⟨-, rfl⟩ := step_testEvents.mp stepped
    exact Or.inr (Or.inr (same rfl))
  | takeEvents =>
    obtain ⟨-, rfl⟩ := step_takeEvents.mp stepped
    exact Or.inr (Or.inr (same rfl))
  | signalNext readings =>
    obtain ⟨event, rest, pending, rfl⟩ := step_signalNext.mp stepped
    exact Or.inr (Or.inl ⟨readings, event, true, by rw [signalOf, pending],
      CallHandler.emits_signalEvent readings event true system.stateHandlers system.xmpp⟩)
  | pollHandlers readings =>
    obtain ⟨-, rfl⟩ := step_pollHandlers.mp stepped
    exact Or.inr (Or.inr (CallHandler.emits_pollStateHandlers readings system.stateHandlers
      system.xmpp))
  | removeStateHandlers =>
    obtain ⟨-, rfl⟩ := step_removeStateHandlers.mp stepped
    exact Or.inr (Or.inr (CallHandler.emits_removeStateHandlers system.stateHandlers system.xmpp))

end JnTapi
