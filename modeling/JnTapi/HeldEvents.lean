/-
This file proves which of the two things a handler does with an event that it
takes: it deletes the event, or it keeps it in its state in place of the one before,
which is deleted.

One answer does neither. The login takes a plain result for the answer to its
authorization and reads through a null pointer, before it would delete the result.
-/

import JnTapi.NullReads
import JnTapi.Ownership

namespace JnTapi

/-! ### The deleted events -/

/-- The event that an effect deletes, if it deletes one. -/
def Effect.deleted? : Effect → Option XmppEvent
  | .deleted event => some event
  | _ => none

namespace Xmpp

/-- The events that have been deleted, in order -/
def deletedEvents (xmpp : Xmpp) : List XmppEvent := xmpp.effects.filterMap Effect.deleted?

theorem deletedEvents_emit {effect : Effect} (other : effect.deleted? = none) (xmpp : Xmpp) :
    (xmpp.emit effect).deletedEvents = xmpp.deletedEvents := by
  show (xmpp.effects ++ [effect]).filterMap Effect.deleted? = _
  rw [List.filterMap_append, List.filterMap_cons_none other, List.filterMap_nil, List.append_nil]
  rfl

@[simp] theorem deletedEvents_deleteEvent (event : XmppEvent) (xmpp : Xmpp) :
    (xmpp.deleteEvent event).deletedEvents = xmpp.deletedEvents ++ [event] := by
  show (xmpp.effects ++ [Effect.deleted event]).filterMap Effect.deleted? = _
  rw [List.filterMap_append]
  rfl

@[simp] theorem deletedEvents_release (held : Option XmppEvent) (xmpp : Xmpp) :
    (xmpp.release held).deletedEvents = xmpp.deletedEvents ++ held.toList := by
  cases held with
  | none => exact (List.append_nil _).symm
  | some event => exact deletedEvents_deleteEvent event xmpp

@[simp] theorem deletedEvents_callStateChange (notification : CallNotification) (xmpp : Xmpp) :
    (xmpp.callStateChange notification).deletedEvents = xmpp.deletedEvents :=
  @deletedEvents_emit (.callStateChange notification) rfl xmpp

@[simp] theorem deletedEvents_initStateChange (notification : InitNotification) (xmpp : Xmpp) :
    (xmpp.initStateChange notification).deletedEvents = xmpp.deletedEvents :=
  @deletedEvents_emit (.initStateChange notification) rfl xmpp

end Xmpp

/-! ### What a handler does with an event -/

/-- What becomes of an event that a handler takes, with the event that the handler keeps before and
after, and with what it deletes. -/
inductive Takes (event : XmppEvent) (held : Option XmppEvent) :
    Option XmppEvent → List XmppEvent → Prop
  /-- The event is deleted, and the handler keeps what it kept. -/
  | deletes : Takes event held held [event]
  /-- The event is deleted, and before it what the handler kept. -/
  | drops : Takes event held none (held.toList ++ [event])
  /-- The handler keeps the event, and what it kept is deleted. -/
  | keeps : Takes event held (some event) held.toList

/-- A handler that accepts the event deletes it or keeps it, and one that refuses it leaves
everything as it is. -/
structure OwnsEvent {Handler : Type} (held : Handler → Option XmppEvent) (event : XmppEvent)
    (handler : Handler) (xmpp : Xmpp) (outcome : Bool × Handler × Xmpp) : Prop where
  accepted : outcome.1 = true → ∃ deleted,
    outcome.2.2.deletedEvents = xmpp.deletedEvents ++ deleted ∧
      Takes event (held handler) (held outcome.2.1) deleted
  refused : outcome.1 = false → outcome = (false, handler, xmpp)

/-- What is kept and deleted afterwards is what was, and the event. -/
theorem Takes.entered {event : XmppEvent} {held next : Option XmppEvent}
    {deleted : List XmppEvent} (takes : Takes event held next deleted) :
    (next.toList : Multiset XmppEvent) + deleted = held.toList + {event} := by
  cases takes with
  | deletes => rfl
  | drops =>
    rw [← Multiset.coe_add]
    simp
  | keeps => exact add_comm _ _

namespace CallHandler

/-- `getCurrentEvent` -/
def currentEvent (handler : CallHandler) : Option XmppEvent := handler.currentState.eventData

section outcomes

variable {event : XmppEvent} {handler next : CallHandler} {xmpp : Xmpp}

/-- The handler has taken the event. -/
def TakesEvent (event : XmppEvent) (handler : CallHandler) (xmpp : Xmpp)
    (outcome : Bool × CallHandler × Xmpp) : Prop :=
  outcome.1 = true → ∃ deleted, outcome.2.2.deletedEvents = xmpp.deletedEvents ++ deleted ∧
    Takes event handler.currentEvent outcome.2.1.currentEvent deleted

theorem takesEvent_refused : TakesEvent event handler xmpp (false, next, xmpp) :=
  fun accepted => absurd accepted Bool.false_ne_true

theorem takesEvent_deleteEvent (same : next.currentEvent = handler.currentEvent) :
    TakesEvent event handler xmpp (true, next, xmpp.deleteEvent event) := by
  refine fun _ => ⟨[event], Xmpp.deletedEvents_deleteEvent event xmpp, ?_⟩
  show Takes event handler.currentEvent next.currentEvent [event]
  rw [same]
  exact .deletes

/-- A new state with the event -/
theorem takesEvent_assignNewState {last : CallHandler} (reading : Reading) (state : CallStates)
    (same : next.currentEvent = handler.currentEvent) (kept : last.currentEvent = some event) :
    TakesEvent event handler xmpp
      (true, last, (next.assignNewState reading state (some event) xmpp).2) := by
  refine fun _ => ⟨handler.currentEvent.toList, ?_, ?_⟩
  · rw [← same]
    exact Xmpp.deletedEvents_release _ xmpp
  · show Takes event handler.currentEvent last.currentEvent _
    rw [kept]
    exact .keeps

end outcomes

theorem deletedEvents_dropBranches (branches : List OnSipCallStateData) (handler : CallHandler)
    (xmpp : Xmpp) :
    (dropBranches branches handler xmpp).2.deletedEvents = xmpp.deletedEvents := by
  induction branches generalizing handler xmpp with
  | nil => rfl
  | cons branch rest inductionHypothesis =>
    exact (inductionHypothesis _ _).trans (Xmpp.deletedEvents_emit rfl xmpp.getUniqueId.2)

theorem takesEvent_dropRequestOrReply (reading : Reading) (handler : CallHandler)
    (event : XmppEvent) (xmpp : Xmpp) :
    TakesEvent event handler xmpp (handler.dropRequestOrReply reading event xmpp) := by
  unfold dropRequestOrReply checkDropRequestEvent checkIqReplyDropRequest
  cases event.data with
  | dropRequest callId =>
    by_cases same : callId = handler.callId
    · simp only [same, ne_eq, not_true_eq_false, if_false]
      intro accepted
      obtain ⟨contextIds, dropped⟩ := dropBranches_handler handler.branches.branches handler xmpp
      have earlier := deletedEvents_dropBranches handler.branches.branches handler xmpp
      refine ⟨handler.currentEvent.toList ++ [event], ?_, .drops⟩
      show (((dropBranches handler.branches.branches handler xmpp).2.release
        (dropBranches handler.branches.branches handler xmpp).1.currentEvent).deleteEvent
          event).deletedEvents = _
      rw [Xmpp.deletedEvents_deleteEvent, Xmpp.deletedEvents_release, earlier, dropped,
        List.append_assoc]
      rfl
    · simp only [ne_eq, same, not_false_eq_true, if_true]
      exact takesEvent_refused
  | iqResult =>
    by_cases member : event.context ∈ handler.droppedContextIds
    · simp only [member, if_true]
      exact takesEvent_deleteEvent rfl
    · simp only [member, if_false]
      exact takesEvent_refused
  | _ => exact takesEvent_refused

theorem takesEvent_outgoing (reading : Reading) (handler : CallHandler) (event : XmppEvent)
    (xmpp : Xmpp) :
    TakesEvent event handler xmpp (handler.outgoingIsYourEvent reading event xmpp) := by
  unfold outgoingIsYourEvent
  split
  · split_ifs
    · exact takesEvent_refused
    · exact takesEvent_assignNewState reading .connected rfl rfl
    · exact takesEvent_deleteEvent rfl
  · split_ifs
    · exact takesEvent_refused
    · exact takesEvent_assignNewState reading .dropped rfl rfl
  · exact takesEvent_dropRequestOrReply reading handler event xmpp

/-- The retract of a branch, for the kinds that count their branches -/
theorem takesEvent_retracted (reading : Reading) (handler : CallHandler) (event : XmppEvent)
    (xmpp : Xmpp) :
    TakesEvent event handler xmpp
      (match handler.branches.checkDroppedCall handler.stateData event.id with
      | (true, callData, branches) =>
        (true, assignNewState reading .dropped (some event)
          { handler.withStateData callData with branches := branches } xmpp)
      | (false, callData, branches) =>
        (true, { handler.withStateData callData with branches := branches },
          xmpp.deleteEvent event)) := by
  split
  · exact @takesEvent_assignNewState event handler { handler.withStateData _ with branches := _ }
      xmpp _ reading .dropped rfl rfl
  · exact takesEvent_deleteEvent rfl

theorem takesEvent_incoming (reading : Reading) (handler : CallHandler) (event : XmppEvent)
    (xmpp : Xmpp) :
    TakesEvent event handler xmpp (handler.incomingIsYourEvent reading event xmpp) := by
  unfold incomingIsYourEvent
  split
  · split_ifs
    · exact takesEvent_refused
    · exact takesEvent_assignNewState reading .connected rfl rfl
    · exact takesEvent_deleteEvent rfl
  · split_ifs
    · exact takesEvent_refused
    · exact takesEvent_retracted reading handler event xmpp
  · exact takesEvent_dropRequestOrReply reading handler event xmpp

/-- In every state of a call that the program makes, an active-call event of the call makes a new
state that keeps the event, or the event is deleted. -/
theorem takesEvent_makeCallActiveCall (make : MakeCallData) (reading : Reading)
    (handler : CallHandler) (event : XmppEvent) (ace : ActiveCall) (xmpp : Xmpp) :
    TakesEvent event handler xmpp (handler.makeCallActiveCall make reading event ace xmpp) := by
  unfold makeCallActiveCall
  split_ifs
  · exact takesEvent_assignNewState reading .makeCallRequested rfl rfl
  · exact takesEvent_deleteEvent rfl
  · exact takesEvent_assignNewState reading .makeCallRequestedAnswered rfl rfl
  · exact takesEvent_assignNewState reading .dropped rfl rfl
  · exact takesEvent_assignNewState reading .makeCallOutgoingCreated rfl rfl
  · exact takesEvent_assignNewState reading .dropped rfl rfl
  · exact takesEvent_assignNewState reading .connected rfl rfl
  · exact takesEvent_assignNewState reading .dropped rfl rfl
  · exact takesEvent_deleteEvent rfl

theorem takesEvent_makeCall (make : MakeCallData) (reading : Reading) (handler : CallHandler)
    (event : XmppEvent) (xmpp : Xmpp) :
    TakesEvent event handler xmpp (handler.makeCallIsYourEvent make reading event xmpp) := by
  have drops : TakesEvent event handler xmpp
      (true, handler.assignNewState reading .dropped (some event) xmpp) :=
    takesEvent_assignNewState reading .dropped rfl rfl
  have deletes : TakesEvent event handler xmpp (true, handler, xmpp.deleteEvent event) :=
    takesEvent_deleteEvent rfl
  unfold makeCallIsYourEvent
  split
  · split_ifs
    · exact takesEvent_refused
    · exact drops
    · exact takesEvent_makeCallActiveCall make reading
        (handler.addBranch event.id _ false handler.callSetupIdArgument) event _ xmpp
  · split_ifs
    · exact takesEvent_retracted reading handler event xmpp
    · exact drops
    · exact deletes
  · split_ifs
    · exact drops
    · exact deletes
    · exact takesEvent_refused
  · exact takesEvent_dropRequestOrReply reading handler event xmpp

/-- Every handler of a call owns the events that it accepts, and no others. -/
theorem ownsEvent_isYourEvent (reading : Reading) (handler : CallHandler) (event : XmppEvent)
    (xmpp : Xmpp) :
    OwnsEvent currentEvent event handler xmpp (handler.isYourEvent reading event xmpp) := by
  refine ⟨?_, isYourEvent_refused⟩
  show TakesEvent event handler xmpp (handler.isYourEvent reading event xmpp)
  unfold isYourEvent
  cases handler.kind with
  | outgoing => exact takesEvent_outgoing reading handler event xmpp
  | incoming => exact takesEvent_incoming reading handler event xmpp
  | makeCall make => exact takesEvent_makeCall make reading handler event xmpp

end CallHandler

/-! ### The handler of the login -/

namespace InitStateHandler

/-- `getCurrentEvent` -/
def currentEvent (handler : InitStateHandler) : Option XmppEvent := handler.currentState.eventData

instance (event : XmppEvent) (handler : InitStateHandler) :
    Decidable (handler.TakesForAuth event) :=
  inferInstanceAs (Decidable (_ ∧ _ ∧ _ ∧ _))

/-- The handler deletes an event that it accepts, or it reads through a null pointer. -/
theorem deletedEvents_isYourEvent {reading : Reading} {handler : InitStateHandler}
    {event : XmppEvent} {xmpp : Xmpp}
    (accepted : (handler.isYourEvent reading event xmpp).1 = true) :
    ((handler.isYourEvent reading event xmpp).2.2.nullReads = xmpp.nullReads ∧
      (handler.isYourEvent reading event xmpp).2.2.deletedEvents =
        xmpp.deletedEvents ++ [event]) ∨
    ((handler.isYourEvent reading event xmpp).2.2.nullReads ≠ xmpp.nullReads ∧
      (handler.isYourEvent reading event xmpp).2.2.deletedEvents = xmpp.deletedEvents) := by
  have deletes : ∀ {before : Xmpp}, before.nullReads = xmpp.nullReads →
      before.deletedEvents = xmpp.deletedEvents →
      ((before.deleteEvent event).nullReads = xmpp.nullReads ∧
        (before.deleteEvent event).deletedEvents = xmpp.deletedEvents ++ [event]) := by
    intro before reads same
    rw [Xmpp.nullReads_deleteEvent, Xmpp.deletedEvents_deleteEvent, same]
    exact ⟨reads, rfl⟩
  rcases isYourEvent_cases reading handler event xmpp with
    ⟨-, success, same⟩ | ⟨-, same⟩ | ⟨-, subid, same⟩ | same
  · rw [same]
    left
    cases success with
    | true =>
      refine deletes ?_ ?_
      · exact (Xmpp.nullReads_emit (by simp) _).trans
          (Xmpp.nullReads_emit (by simp) xmpp.getUniqueId.2)
      · exact (Xmpp.deletedEvents_emit rfl _).trans
          (Xmpp.deletedEvents_emit rfl xmpp.getUniqueId.2)
    | false => exact deletes rfl rfl
  · rw [same]
    unfold authorizing
    cases event.isError with
    | true => exact Or.inl (deletes rfl rfl)
    | false =>
      have readsNull : (xmpp.emit .nullRead).nullReads ≠ xmpp.nullReads ∧
          (xmpp.emit .nullRead).deletedEvents = xmpp.deletedEvents :=
        ⟨by simp, Xmpp.deletedEvents_emit rfl xmpp⟩
      cases event.data with
      | auth expireDate =>
        exact Or.inl
          (deletes (Xmpp.nullReads_emit (by simp) xmpp) (Xmpp.deletedEvents_emit rfl xmpp))
      | _ => exact Or.inr readsNull
  · rw [same]
    left
    unfold enabling
    cases event.isError with
    | true => exact deletes rfl rfl
    | false => exact deletes rfl rfl
  · rw [same] at accepted ⊢
    left
    unfold anyState at accepted ⊢
    cases kind : event.data <;> rw [kind] at accepted
    case onDisconnect => exact deletes rfl rfl
    case shutdownRequest =>
      exact deletes (Xmpp.nullReads_emit (by simp) xmpp.getUniqueId.2)
        (Xmpp.deletedEvents_emit rfl xmpp.getUniqueId.2)
    case iqResult =>
      dsimp only at accepted ⊢
      split_ifs at accepted ⊢
      exact deletes rfl rfl
    all_goals cases accepted

/-- A handler that keeps no event never keeps one. -/
theorem currentEvent_isYourEvent (reading : Reading) {handler : InitStateHandler}
    (none : handler.currentEvent = none) (event : XmppEvent) (xmpp : Xmpp) :
    (handler.isYourEvent reading event xmpp).2.1.currentEvent = Option.none := by
  rcases isYourEvent_cases reading handler event xmpp with
    ⟨-, success, same⟩ | ⟨-, same⟩ | ⟨-, subid, same⟩ | same
  · rw [same]
    cases success <;> rfl
  · rw [same]
    unfold authorizing
    cases event.isError with
    | true => rfl
    | false => cases event.data <;> rfl
  · rw [same]
    unfold enabling
    cases event.isError <;> rfl
  · rw [same]
    unfold anyState
    cases event.data with
    | onDisconnect => rfl
    | shutdownRequest => rfl
    | iqResult =>
      dsimp only
      split_ifs
      · rfl
      · exact none
    | _ => exact none

/-- The handler of the login owns the event exactly when it does not take a plain result for the
answer to its authorization. -/
theorem ownsEvent_iff {handler : InitStateHandler} (none : handler.currentEvent = none)
    (reading : Reading) (event : XmppEvent) (xmpp : Xmpp) :
    OwnsEvent currentEvent event handler xmpp (handler.isYourEvent reading event xmpp) ↔
      ¬ handler.TakesForAuth event := by
  have reads := handler.nullReads_isYourEvent reading event xmpp
  have kept := currentEvent_isYourEvent reading none event xmpp
  rw [← reads]
  constructor
  · intro owns
    by_contra readsNull
    cases accepted : (handler.isYourEvent reading event xmpp).1 with
    | true =>
      rcases deletedEvents_isYourEvent accepted with ⟨same, -⟩ | ⟨-, nothing⟩
      · exact readsNull same
      · obtain ⟨deleted, adds, takes⟩ := owns.accepted accepted
        rw [nothing, List.self_eq_append_right] at adds
        rw [adds, kept, none] at takes
        cases takes
    | false => exact readsNull (by rw [isYourEvent_refused accepted])
  · intro same
    refine ⟨fun accepted => ?_, isYourEvent_refused⟩
    rcases deletedEvents_isYourEvent accepted with ⟨-, deletes⟩ | ⟨readsNull, -⟩
    · refine ⟨[event], deletes, ?_⟩
      rw [kept, none]
      exact .deletes
    · exact absurd same readsNull

/-! ### Polling -/

theorem deletedEvents_isComplete (worker : ReAuthorizeSubscribeWorker) (xmpp : Xmpp) :
    (worker.isComplete xmpp).2.2.deletedEvents = xmpp.deletedEvents := by
  unfold ReAuthorizeSubscribeWorker.isComplete
  split_ifs
  · rfl
  · split
    · split_ifs
      · rfl
      · rfl
      · exact Xmpp.deletedEvents_emit rfl xmpp
    · split_ifs <;> rfl
    · rfl

theorem deletedEvents_handleReAuthorize (reading : Reading) (handler : InitStateHandler)
    (xmpp : Xmpp) :
    (handler.handleReAuthorize reading xmpp).2.2.deletedEvents = xmpp.deletedEvents := by
  unfold handleReAuthorize
  split
  · exact Xmpp.deletedEvents_emit rfl xmpp.getUniqueId.2
  · rename_i worker _
    have same := deletedEvents_isComplete worker xmpp
    split
    · rename_i outcome
      rw [outcome] at same
      split_ifs <;> exact same
    · rename_i outcome
      rw [outcome] at same
      split_ifs <;> exact same

theorem deletedEvents_pollStateHandler (reading : Reading) (handler : InitStateHandler)
    (xmpp : Xmpp) :
    (handler.pollStateHandler reading xmpp).2.2.deletedEvents = xmpp.deletedEvents := by
  refine @pollStateHandler_rule (fun _ later => later.deletedEvents = xmpp.deletedEvents) reading
    handler xmpp rfl (deletedEvents_handleReAuthorize reading handler xmpp) ?_ ?_
  · intro next later before
    refine Eq.trans ?_ before
    unfold pollPing
    split_ifs
    · exact Xmpp.deletedEvents_emit rfl later
    · rfl
  · exact fun _ _ _ before => before

end InitStateHandler

/-! ### The books of the two machines -/

namespace Xmpp

/-- What has been deleted -/
def freed (xmpp : Xmpp) : Multiset XmppEvent := xmpp.deletedEvents

theorem freed_congr {first second : Xmpp} (same : first.deletedEvents = second.deletedEvents) :
    first.freed = second.freed :=
  congrArg Multiset.ofList same

theorem freed_append {before after : Xmpp} {deleted : List XmppEvent}
    (adds : after.deletedEvents = before.deletedEvents ++ deleted) :
    after.freed = before.freed + deleted := by
  rw [freed, adds, ← Multiset.coe_add]
  rfl

@[simp] theorem freed_deleteEvent (event : XmppEvent) (xmpp : Xmpp) :
    (xmpp.deleteEvent event).freed = xmpp.freed + {event} :=
  freed_append (deletedEvents_deleteEvent event xmpp)

@[simp] theorem freed_release (held : Option XmppEvent) (xmpp : Xmpp) :
    (xmpp.release held).freed = xmpp.freed + held.toList :=
  freed_append (deletedEvents_release held xmpp)

end Xmpp

/-- The event that the handler of a call keeps, if it keeps one -/
def CallHandler.held (handler : CallHandler) : Multiset XmppEvent := handler.currentEvent.toList

/-- What the handler of the login takes of an event that it accepts: all of it, unless it reads
through a null pointer first. -/
def InitStateHandler.entry (event : XmppEvent) (handler : InitStateHandler) : Multiset XmppEvent :=
  if handler.TakesForAuth event then 0 else {event}

theorem InitStateHandler.entry_eq_singleton {event : XmppEvent} {handler : InitStateHandler} :
    entry event handler = {event} ↔ ¬ handler.TakesForAuth event := by
  unfold entry
  split_ifs with takes
  · exact iff_of_false (Multiset.zero_ne_singleton event) (not_not.mpr takes)
  · exact iff_of_true rfl takes

/-- A new handler keeps the event that it was created for. -/
theorem CallHandler.held_of_unknownEvent {reading : Reading} {event : XmppEvent} {xmpp later : Xmpp}
    {handler : CallHandler} (made : unknownEvent reading event xmpp = (some handler, later)) :
    handler.held = {event} ∧ later.deletedEvents = xmpp.deletedEvents := by
  unfold unknownEvent at made
  split at made
  · split_ifs at made
    · cases made
      exact ⟨rfl, rfl⟩
    · cases made
      exact ⟨rfl, rfl⟩
    · cases made
  · cases made

/-- The handlers of the calls take every event that they accept whole. -/
theorem callVirtuals_accounts :
    callVirtuals.Accounts CallHandler.held Xmpp.freed fun event _ => {event} where
  unchanged := CallHandler.refusesUnchanged_callVirtuals
  isYourEvent := by
    intro reading handler event xmpp accepted
    obtain ⟨deleted, adds, takes⟩ :=
      (handler.ownsEvent_isYourEvent reading event xmpp).accepted accepted
    show (handler.isYourEvent reading event xmpp).2.1.held +
      (handler.isYourEvent reading event xmpp).2.2.freed = _
    rw [Xmpp.freed_append adds, add_left_comm, CallHandler.held, takes.entered, ← add_assoc,
      add_comm xmpp.freed]
    rfl
  isStillExist := by
    intro reading handler xmpp
    rcases handler.isStillExist_cases reading xmpp with same | ⟨-, lapsed⟩
    · rw [show callVirtuals.isStillExist reading handler xmpp = _ from same]
    · rw [show callVirtuals.isStillExist reading handler xmpp = _ from lapsed, Xmpp.freed_release,
        show (handler.timedOut reading).held = 0 from rfl, zero_add, add_comm]
      rfl
  pollStateHandler _ _ _ := rfl
  created := by
    intro reading event xmpp handler later made
    obtain ⟨held, same⟩ := CallHandler.held_of_unknownEvent made
    rw [held, Xmpp.freed_congr same, add_comm]
  unknown := by
    intro reading event xmpp later made
    rcases CallHandler.unknownEvent_cases reading event xmpp with same | ⟨handler, same, -⟩
    · rw [show callVirtuals.unknownEvent reading event xmpp = _ from same] at made
      cases made
      rfl
    · rw [show callVirtuals.unknownEvent reading event xmpp = _ from same] at made
      cases made
  onStateChange _ _ xmpp := Xmpp.freed_congr (Xmpp.deletedEvents_callStateChange _ xmpp)
  preExecute := by
    intro reading handler xmpp
    show (CallHandler.preExecute reading handler xmpp).2.1.held +
      (CallHandler.preExecute reading handler xmpp).2.2.freed = _
    unfold CallHandler.preExecute
    cases handler.kind with
    | makeCall make =>
      have sent : ∀ effect : Effect, effect.deleted? = none →
          ((xmpp.getUniqueId.2.emit effect).release handler.currentEvent).freed =
            xmpp.freed + handler.held := by
        intro effect other
        rw [Xmpp.freed_release, Xmpp.freed_congr (Xmpp.deletedEvents_emit other _)]
        rfl
      refine (zero_add _).trans ((sent (.create _ _ _ _) rfl).trans (add_comm _ _))
    | _ => rfl
  deleteEvent := Xmpp.freed_deleteEvent
  deleteHandler handler xmpp := (Xmpp.freed_release _ xmpp).trans (add_comm _ _)

/-- The handlers of the login keep no event. -/
theorem initVirtuals_accounts :
    initVirtuals.Accounts (fun _ => 0) Xmpp.freed InitStateHandler.entry where
  unchanged := refusesUnchanged_initVirtuals
  isYourEvent := by
    intro reading handler event xmpp accepted
    have reads := handler.nullReads_isYourEvent reading event xmpp
    rw [zero_add, zero_add, InitStateHandler.entry]
    rcases InitStateHandler.deletedEvents_isYourEvent accepted with
      ⟨same, deletes⟩ | ⟨readsNull, nothing⟩
    · rw [if_neg (reads.mp same)]
      exact Xmpp.freed_append deletes
    · rw [if_pos (not_not.mp fun not => readsNull (reads.mpr not)), add_zero]
      exact Xmpp.freed_congr nothing
  isStillExist _ handler xmpp := congrArg (0 + Xmpp.freed ·) (handler.isStillExist_snd xmpp)
  pollStateHandler reading handler xmpp :=
    congrArg (0 + ·) (Xmpp.freed_congr (handler.deletedEvents_pollStateHandler reading xmpp))
  created _ _ _ _ _ made := by cases made
  unknown _ _ _ _ made := by cases made; rfl
  onStateChange _ _ xmpp := Xmpp.freed_congr (Xmpp.deletedEvents_initStateChange _ xmpp)
  preExecute _ _ _ := rfl
  deleteEvent := Xmpp.freed_deleteEvent
  deleteHandler _ _ := (zero_add _).symm

end JnTapi
