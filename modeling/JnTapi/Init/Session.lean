/-
This file proves what a login machine does that has only one handler, the driver
of its session.

What the driver does next depends on its own state and on what happens to it, and
not on the object or on the ids that its requests were sent with. Every change of
its state is notified, so the last notified state is its own.
-/

import JnTapi.Init.Facts

namespace JnTapi

namespace InitStateHandler

/-! ### The ids do not matter -/

/-- The handler with another context id for its authorization -/
def withContext (contextId : Long) (handler : InitStateHandler) : InitStateHandler :=
  { handler with contextId := contextId }

@[simp] theorem state_withContext (contextId : Long) (handler : InitStateHandler) :
    (handler.withContext contextId).state = handler.state := rfl

theorem withContext_self (handler : InitStateHandler) :
    handler.withContext handler.contextId = handler := rfl

theorem isComplete_eq (worker : ReAuthorizeSubscribeWorker) (xmpp other : Xmpp) :
    (worker.isComplete other).1 = (worker.isComplete xmpp).1 ∧
      (worker.isComplete other).2.1 = (worker.isComplete xmpp).2.1 := by
  unfold ReAuthorizeSubscribeWorker.isComplete
  split_ifs
  · exact ⟨rfl, rfl⟩
  · split
    · split_ifs
      · exact ⟨rfl, rfl⟩
      · exact ⟨rfl, rfl⟩
      · exact ⟨rfl, rfl⟩
    · split_ifs
      · exact ⟨rfl, rfl⟩
      · exact ⟨rfl, rfl⟩
    · exact ⟨rfl, rfl⟩

theorem handleReAuthorize_withContext (contextId : Long) (reading : Reading)
    (handler : InitStateHandler) (xmpp other : Xmpp) :
    ((handler.withContext contextId).handleReAuthorize reading other).1 =
        (handler.handleReAuthorize reading xmpp).1 ∧
      ((handler.withContext contextId).handleReAuthorize reading other).2.1 =
        (handler.handleReAuthorize reading xmpp).2.1.withContext contextId := by
  have sameWorker : (handler.withContext contextId).reauthorizer = handler.reauthorizer := rfl
  unfold handleReAuthorize
  rw [sameWorker]
  cases handler.reauthorizer with
  | none => exact ⟨rfl, rfl⟩
  | some worker =>
    obtain ⟨sameFlag, sameNext⟩ := isComplete_eq worker xmpp other
    rcases first : worker.isComplete xmpp with ⟨complete, next, later⟩
    rcases second : worker.isComplete other with ⟨otherComplete, otherNext, otherLater⟩
    rw [first, second] at sameFlag sameNext
    obtain rfl : otherComplete = complete := sameFlag
    obtain rfl : otherNext = next := sameNext
    cases otherComplete with
    | true =>
      simp only [first, second]
      split_ifs
      · exact ⟨rfl, rfl⟩
      · exact ⟨rfl, rfl⟩
    | false =>
      simp only [first, second]
      split_ifs
      · exact ⟨rfl, rfl⟩
      · exact ⟨rfl, rfl⟩

theorem pollPing_withContext (contextId : Long) (reading : Reading) (handler : InitStateHandler)
    (xmpp other : Xmpp) :
    ((handler.withContext contextId).pollPing reading other).1 =
      (handler.pollPing reading xmpp).1.withContext contextId := by
  have sameState : (handler.withContext contextId).state = handler.state := rfl
  have samePing : (handler.withContext contextId).ping = handler.ping := rfl
  unfold pollPing
  rw [sameState, samePing]
  split_ifs <;> rfl

theorem checkStateTimeouts_withContext (contextId : Long) (reading : Reading)
    (states : List InitStates) (handler : InitStateHandler) :
    checkStateTimeouts reading states (handler.withContext contextId) =
      ((checkStateTimeouts reading states handler).1,
        (checkStateTimeouts reading states handler).2.withContext contextId) := by
  induction states with
  | nil => rfl
  | cons initState rest inductionHypothesis =>
    simp only [checkStateTimeouts, checkStateTimeout]
    by_cases late : handler.state = initState ∧
        generalCommunicationTimeout < handler.currentState.msecsSinceLastStateChange reading
    · have alsoLate : (handler.withContext contextId).state = initState ∧
          generalCommunicationTimeout <
            (handler.withContext contextId).currentState.msecsSinceLastStateChange reading := late
      rw [if_pos late, if_pos alsoLate]
      rfl
    · have alsoNot : ¬ ((handler.withContext contextId).state = initState ∧
          generalCommunicationTimeout <
            (handler.withContext contextId).currentState.msecsSinceLastStateChange reading) := late
      rw [if_neg late, if_neg alsoNot]
      exact inductionHypothesis

/-- What a poll makes of a handler does not depend on the object or on the context id. -/
theorem pollStateHandler_withContext (contextId : Long) (reading : Reading)
    (handler : InitStateHandler) (xmpp other : Xmpp) :
    ((handler.withContext contextId).pollStateHandler reading other).1 =
        (handler.pollStateHandler reading xmpp).1 ∧
      ((handler.withContext contextId).pollStateHandler reading other).2.1 =
        (handler.pollStateHandler reading xmpp).2.1.withContext contextId := by
  rcases first : (if handler.state = .ok ∧ handler.authTO.isExpired reading
    then handler.handleReAuthorize reading xmpp else (true, handler, xmpp)) with
    ⟨flag, next, later⟩
  rcases second : (if (handler.withContext contextId).state = .ok ∧
      (handler.withContext contextId).authTO.isExpired reading
    then (handler.withContext contextId).handleReAuthorize reading other
    else (true, handler.withContext contextId, other)) with ⟨otherFlag, otherNext, otherLater⟩
  have renewed : otherFlag = flag ∧ otherNext = next.withContext contextId := by
    have same := handleReAuthorize_withContext contextId reading handler xmpp other
    by_cases expired : handler.state = .ok ∧ handler.authTO.isExpired reading
    · have otherExpired : (handler.withContext contextId).state = .ok ∧
          (handler.withContext contextId).authTO.isExpired reading := expired
      rw [if_pos expired] at first
      rw [if_pos otherExpired] at second
      rw [first, second] at same
      exact same
    · have otherNot : ¬ ((handler.withContext contextId).state = .ok ∧
          (handler.withContext contextId).authTO.isExpired reading) := expired
      rw [if_neg expired] at first
      rw [if_neg otherNot] at second
      cases first
      cases second
      exact ⟨rfl, rfl⟩
  obtain ⟨rfl, rfl⟩ := renewed
  unfold pollStateHandler
  simp only [first, second]
  cases otherFlag with
  | false => exact ⟨rfl, rfl⟩
  | true =>
    simp only [pollPing_withContext contextId reading next later otherLater,
      checkStateTimeouts_withContext, and_self]

theorem anyState_withContext (contextId : Long) (reading : Reading) (handler : InitStateHandler)
    (event : XmppEvent) (context : Long) (xmpp other : Xmpp)
    (fromConnection : event.data.fromConnection = true) (going : handler.state ≠ .shuttingDown) :
    ((handler.withContext contextId).anyState reading { event with context := context } other).1 =
        (handler.anyState reading event xmpp).1 ∧
      ((handler.withContext contextId).anyState reading { event with context := context }
        other).2.1 = (handler.anyState reading event xmpp).2.1.withContext contextId := by
  unfold anyState
  cases kind : event.data with
  | shutdownRequest =>
    rw [kind] at fromConnection
    cases fromConnection
  | iqResult =>
    have otherGoing : ¬ ((handler.withContext contextId).state = .shuttingDown ∧
        context = (handler.withContext contextId).unsubscribeContextId) := fun both => going both.1
    have firstGoing : ¬ (handler.state = .shuttingDown ∧
        event.context = handler.unsubscribeContextId) := fun both => going both.1
    simp only [if_neg otherGoing, if_neg firstGoing, and_self]
  | _ => exact ⟨rfl, rfl⟩

/-- What an event from the connection makes of a handler does not depend on the object or on the
context id, if it answers the request of the handler in both cases or in none. -/
theorem isYourEvent_withContext (contextId : Long) (reading : Reading)
    (handler : InitStateHandler) (event : XmppEvent) (context : Long) (xmpp other : Xmpp)
    (fromConnection : event.data.fromConnection = true) (going : handler.state ≠ .shuttingDown)
    (reply : context = contextId ↔ event.context = handler.contextId) :
    ((handler.withContext contextId).isYourEvent reading { event with context := context }
        other).1 = (handler.isYourEvent reading event xmpp).1 ∧
      ∃ nextContext, ((handler.withContext contextId).isYourEvent reading
        { event with context := context } other).2.1 =
          (handler.isYourEvent reading event xmpp).2.1.withContext nextContext := by
  obtain ⟨sameFlag, sameNext⟩ := anyState_withContext contextId reading handler event context xmpp
    other fromConnection going
  have elsewhere : ((handler.withContext contextId).anyState reading
      { event with context := context } other).1 = (handler.anyState reading event xmpp).1 ∧
      ∃ nextContext, ((handler.withContext contextId).anyState reading
        { event with context := context } other).2.1 =
          (handler.anyState reading event xmpp).2.1.withContext nextContext :=
    ⟨sameFlag, contextId, sameNext⟩
  have answered : ((handler.withContext contextId).authorizing reading
      { event with context := context } other).1 = (handler.authorizing reading event xmpp).1 ∧
      ∃ nextContext, ((handler.withContext contextId).authorizing reading
        { event with context := context } other).2.1 =
          (handler.authorizing reading event xmpp).2.1.withContext nextContext := by
    unfold authorizing
    cases event.isError with
    | true => exact ⟨rfl, contextId, rfl⟩
    | false => cases event.data <;> exact ⟨rfl, contextId, rfl⟩
  obtain ⟨id, isError, given, data⟩ := event
  unfold isYourEvent
  rw [state_withContext]
  cases handler.state with
  | preLogin =>
    cases data with
    | onConnect =>
      unfold prelogon
      cases isError with
      | true => exact ⟨rfl, contextId, rfl⟩
      | false => exact ⟨rfl, _, rfl⟩
    | onDisconnect => exact ⟨rfl, contextId, rfl⟩
    | _ => exact elsewhere
  | authorizing =>
    cases data with
    | auth expireDate => exact answered
    | iqResult =>
      by_cases ours : given = handler.contextId
      · have alsoOurs : context = (handler.withContext contextId).contextId := reply.mpr ours
        simp only [if_pos ours, if_pos alsoOurs]
        exact answered
      · have notOurs : ¬ context = (handler.withContext contextId).contextId :=
          fun same => ours (reply.mp same)
        simp only [if_neg ours, if_neg notOurs]
        exact elsewhere
    | _ => exact elsewhere
  | enablingCallEvents =>
    cases data with
    | subscribed isSubscribed subid =>
      unfold enabling
      cases isError with
      | true => exact ⟨rfl, contextId, rfl⟩
      | false => exact ⟨rfl, contextId, rfl⟩
    | _ => exact elsewhere
  | _ => exact elsewhere

/-! ### How the state changes -/

/-- The progress of the login, or what any state makes of an event. -/
theorem isYourEvent_cases (reading : Reading) (handler : InitStateHandler) (event : XmppEvent)
    (xmpp : Xmpp) :
    (handler.state = .preLogin ∧ ∃ success,
      handler.isYourEvent reading event xmpp = handler.prelogon success reading event xmpp) ∨
    (handler.state = .authorizing ∧
      handler.isYourEvent reading event xmpp = handler.authorizing reading event xmpp) ∨
    (handler.state = .enablingCallEvents ∧ ∃ subid,
      handler.isYourEvent reading event xmpp = handler.enabling subid reading event xmpp) ∨
    handler.isYourEvent reading event xmpp = handler.anyState reading event xmpp := by
  unfold isYourEvent
  split
  case h_1 state kind => exact Or.inl ⟨state, _, rfl⟩
  case h_2 state kind => exact Or.inl ⟨state, _, rfl⟩
  case h_3 state kind => exact Or.inr (Or.inl ⟨state, rfl⟩)
  case h_4 state kind =>
    split_ifs
    · exact Or.inr (Or.inl ⟨state, rfl⟩)
    · exact Or.inr (Or.inr (Or.inr rfl))
  case h_5 state kind => exact Or.inr (Or.inr (Or.inl ⟨state, _, rfl⟩))
  case h_6 => exact Or.inr (Or.inr (Or.inr rfl))

theorem prelogon_accepted (success : Bool) (reading : Reading) (handler : InitStateHandler)
    (event : XmppEvent) (xmpp : Xmpp) :
    (handler.prelogon success reading event xmpp).1 = true ∧
      ((handler.prelogon success reading event xmpp).2.1.state = .authorizing ∨
        (handler.prelogon success reading event xmpp).2.1.state = .loginError) := by
  cases success with
  | true => exact ⟨rfl, Or.inl rfl⟩
  | false => exact ⟨rfl, Or.inr rfl⟩

theorem authorizing_accepted (reading : Reading) (handler : InitStateHandler) (event : XmppEvent)
    (xmpp : Xmpp) :
    (handler.authorizing reading event xmpp).1 = true ∧
      ((handler.authorizing reading event xmpp).2.1.state = .enablingCallEvents ∨
        (handler.authorizing reading event xmpp).2.1.state = .authorizedError) := by
  unfold authorizing
  cases event.isError with
  | true => exact ⟨rfl, Or.inr rfl⟩
  | false => cases event.data <;> exact ⟨rfl, Or.inl rfl⟩

theorem enabling_accepted (subid : TString) (reading : Reading) (handler : InitStateHandler)
    (event : XmppEvent) (xmpp : Xmpp) :
    (handler.enabling subid reading event xmpp).1 = true ∧
      ((handler.enabling subid reading event xmpp).2.1.state = .ok ∨
        (handler.enabling subid reading event xmpp).2.1.state = .enabledCallError) := by
  unfold enabling
  cases event.isError with
  | true => exact ⟨rfl, Or.inr rfl⟩
  | false => exact ⟨rfl, Or.inl rfl⟩

/-- What any state makes of an event: it refuses the event, or the event ends the session. -/
theorem anyState_cases (reading : Reading) (handler : InitStateHandler) (event : XmppEvent)
    (xmpp : Xmpp) :
    handler.anyState reading event xmpp = (false, handler, xmpp) ∨
    ((handler.anyState reading event xmpp).1 = true ∧
      ((event.data = .onDisconnect ∧
          (handler.anyState reading event xmpp).2.1.state = .disconnected) ∨
        (event.data = .shutdownRequest ∧
          (handler.anyState reading event xmpp).2.1.state = .shuttingDown) ∨
        (handler.state = .shuttingDown ∧
          (handler.anyState reading event xmpp).2.1.state = .shutDown))) := by
  unfold anyState
  cases event.data with
  | onDisconnect => exact Or.inr ⟨rfl, Or.inl ⟨rfl, rfl⟩⟩
  | shutdownRequest => exact Or.inr ⟨rfl, Or.inr (Or.inl ⟨rfl, rfl⟩)⟩
  | iqResult =>
    by_cases ours : handler.state = .shuttingDown ∧ event.context = handler.unsubscribeContextId
    · simp only [if_pos ours]
      exact Or.inr ⟨trivial, Or.inr (Or.inr ⟨ours.1, rfl⟩)⟩
    · simp only [if_neg ours]
      exact Or.inl trivial
  | _ => exact Or.inl rfl

/-- A handler that refuses an event changes nothing. -/
theorem isYourEvent_refused {reading : Reading} {handler : InitStateHandler} {event : XmppEvent}
    {xmpp : Xmpp} (refused : (handler.isYourEvent reading event xmpp).1 = false) :
    handler.isYourEvent reading event xmpp = (false, handler, xmpp) := by
  rcases isYourEvent_cases reading handler event xmpp with
    ⟨-, success, same⟩ | ⟨-, same⟩ | ⟨-, subid, same⟩ | same
  · rw [same, (prelogon_accepted success reading handler event xmpp).1] at refused
    cases refused
  · rw [same, (authorizing_accepted reading handler event xmpp).1] at refused
    cases refused
  · rw [same, (enabling_accepted subid reading handler event xmpp).1] at refused
    cases refused
  · rcases anyState_cases reading handler event xmpp with unchanged | ⟨accepted, -⟩
    · rw [same, unchanged]
    · rw [same, accepted] at refused
      cases refused

/-- The session of the handler is not being shut down. -/
structure Going (handler : InitStateHandler) : Prop where
  notShuttingDown : handler.state ≠ .shuttingDown
  notShutDown : handler.state ≠ .shutDown

theorem going_new (reading : Reading) : (new reading).Going :=
  ⟨fun same => InitStates.noConfusion same, fun same => InitStates.noConfusion same⟩

theorem Going.of_state {handler next : InitStateHandler} (going : handler.Going)
    (same : next.state = handler.state) : next.Going :=
  ⟨same ▸ going.notShuttingDown, same ▸ going.notShutDown⟩

/-- The connection alone does not shut the session down. -/
theorem Going.isYourEvent {handler : InitStateHandler} (going : handler.Going) (reading : Reading)
    {event : XmppEvent} (fromConnection : event.data.fromConnection = true) (xmpp : Xmpp) :
    (handler.isYourEvent reading event xmpp).2.1.Going := by
  rcases isYourEvent_cases reading handler event xmpp with
    ⟨-, success, same⟩ | ⟨-, same⟩ | ⟨-, subid, same⟩ | same
  · rcases (prelogon_accepted success reading handler event xmpp).2 with state | state <;>
      exact ⟨by simp [same, state], by simp [same, state]⟩
  · rcases (authorizing_accepted reading handler event xmpp).2 with state | state <;>
      exact ⟨by simp [same, state], by simp [same, state]⟩
  · rcases (enabling_accepted subid reading handler event xmpp).2 with state | state <;>
      exact ⟨by simp [same, state], by simp [same, state]⟩
  · rcases anyState_cases reading handler event xmpp with
      unchanged | ⟨-, ⟨-, state⟩ | ⟨request, -⟩ | ⟨shutting, -⟩⟩
    · rw [same, unchanged]
      exact going
    · exact ⟨by simp [same, state], by simp [same, state]⟩
    · rw [request] at fromConnection
      cases fromConnection
    · exact absurd shutting going.notShuttingDown

theorem checkStateTimeouts_cases (reading : Reading) (states : List InitStates)
    (handler : InitStateHandler) :
    checkStateTimeouts reading states handler = (false, handler) ∨
    (handler.state ∈ states ∧ checkStateTimeouts reading states handler =
      (true, handler.assignNewState reading .disconnected)) := by
  induction states with
  | nil => exact Or.inl rfl
  | cons initState rest inductionHypothesis =>
    simp only [checkStateTimeouts, checkStateTimeout]
    by_cases late : handler.state = initState ∧
        generalCommunicationTimeout < handler.currentState.msecsSinceLastStateChange reading
    · rw [if_pos late]
      exact Or.inr ⟨late.1 ▸ List.mem_cons_self, rfl⟩
    · rw [if_neg late]
      rcases inductionHypothesis with same | ⟨member, timedOut⟩
      · exact Or.inl same
      · exact Or.inr ⟨List.mem_cons_of_mem _ member, timedOut⟩

theorem handleReAuthorize_cases (reading : Reading) (handler : InitStateHandler) (xmpp : Xmpp) :
    ((handler.handleReAuthorize reading xmpp).1 = true ∧
      (handler.handleReAuthorize reading xmpp).2.1.currentState = handler.currentState) ∨
    ((handler.handleReAuthorize reading xmpp).1 = false ∧
      (handler.handleReAuthorize reading xmpp).2.1.state = .disconnected) := by
  unfold handleReAuthorize
  cases handler.reauthorizer with
  | none => exact Or.inl ⟨rfl, rfl⟩
  | some worker =>
    rcases outcome : worker.isComplete xmpp with ⟨complete, next, later⟩
    cases complete with
    | true =>
      simp only [outcome]
      split_ifs
      · exact Or.inl ⟨rfl, rfl⟩
      · exact Or.inl ⟨rfl, rfl⟩
    | false =>
      simp only [outcome]
      split_ifs
      · exact Or.inr ⟨rfl, rfl⟩
      · exact Or.inl ⟨rfl, rfl⟩

theorem currentState_pollPing (reading : Reading) (handler : InitStateHandler) (xmpp : Xmpp) :
    (handler.pollPing reading xmpp).1.currentState = handler.currentState := by
  unfold pollPing
  split_ifs <;> rfl

/-- A poll that reports no change leaves the state, and one that reports a change has
disconnected a handler that was connecting, in use or shutting down. -/
theorem pollStateHandler_cases (reading : Reading) (handler : InitStateHandler) (xmpp : Xmpp) :
    ((handler.pollStateHandler reading xmpp).1 = false ∧
      (handler.pollStateHandler reading xmpp).2.1.currentState = handler.currentState) ∨
    (handler.state ∈ [.preLogin, .authorizing, .enablingCallEvents, .shuttingDown, .ok] ∧
      (handler.pollStateHandler reading xmpp).1 = true ∧
      (handler.pollStateHandler reading xmpp).2.1.state = .disconnected) := by
  rcases first : (if handler.state = .ok ∧ handler.authTO.isExpired reading
    then handler.handleReAuthorize reading xmpp else (true, handler, xmpp)) with
    ⟨flag, next, later⟩
  have renewed : (flag = true ∧ next.currentState = handler.currentState) ∨
      (handler.state = .ok ∧ flag = false ∧ next.state = .disconnected) := by
    by_cases expired : handler.state = .ok ∧ handler.authTO.isExpired reading
    · rw [if_pos expired] at first
      have cases_ := handleReAuthorize_cases reading handler xmpp
      rw [first] at cases_
      rcases cases_ with same | lost
      · exact Or.inl same
      · exact Or.inr ⟨expired.1, lost⟩
    · rw [if_neg expired] at first
      cases first
      exact Or.inl ⟨rfl, rfl⟩
  unfold pollStateHandler
  simp only [first]
  rcases renewed with ⟨rfl, same⟩ | ⟨ok, rfl, lost⟩
  · have pinged : (next.pollPing reading later).1.currentState = handler.currentState :=
      (currentState_pollPing reading next later).trans same
    rcases checkStateTimeouts_cases reading
      [.preLogin, .authorizing, .enablingCallEvents, .shuttingDown]
      (next.pollPing reading later).1 with unchanged | ⟨member, timedOut⟩
    · simp only [unchanged]
      exact Or.inl ⟨trivial, pinged⟩
    · rw [InitStateHandler.state, pinged] at member
      simp only [timedOut]
      refine Or.inr ⟨?_, trivial, rfl⟩
      exact List.mem_append_left [InitStates.ok] member
  · exact Or.inr ⟨by simp [ok], rfl, lost⟩

theorem Going.pollStateHandler {handler : InitStateHandler} (going : handler.Going)
    (reading : Reading) (xmpp : Xmpp) : (handler.pollStateHandler reading xmpp).2.1.Going := by
  rcases pollStateHandler_cases reading handler xmpp with ⟨-, same⟩ | ⟨-, -, lost⟩
  · exact going.of_state (congrArg StateItem.state same)
  · exact ⟨by simp [lost], by simp [lost]⟩

/-! ### A machine with one handler -/

/-- An event is offered to the only handler, whose change is notified. -/
def offered (reading : Reading) (event : XmppEvent) (handler : InitStateHandler) (xmpp : Xmpp) :
    Bool × InitStateHandler × Xmpp :=
  match handler.isYourEvent reading event xmpp with
  | (true, next, later) => (true, next, next.onStateChange .isYourEventHandled later)
  | (false, next, later) => (false, next, later)

/-- The only handler is polled, and its change is notified. -/
def polled (reading : Reading) (handler : InitStateHandler) (xmpp : Xmpp) :
    InitStateHandler × Xmpp :=
  match handler.pollStateHandler reading xmpp with
  | (true, next, later) => (next, next.onStateChange .pollHandler later)
  | (false, next, later) => (next, later)

theorem isStillExist_of_not_shutDown {handler : InitStateHandler} (xmpp : Xmpp)
    (alive : handler.state ≠ .shutDown) : handler.isStillExist xmpp = (true, handler, xmpp) := by
  rw [isStillExist, if_neg alive]

theorem checkStateHandlersExist_alive {handlers : List InitStateHandler}
    (alive : ∀ handler ∈ handlers, handler.state ≠ .shutDown) (check : Nat → Reading)
    (xmpp : Xmpp) :
    StateMachine.checkStateHandlersExist initVirtuals check handlers xmpp = (handlers, xmpp) := by
  induction handlers generalizing check with
  | nil => rfl
  | cons handler rest inductionHypothesis =>
    have first : initVirtuals.isStillExist (check 0) handler xmpp = (true, handler, xmpp) :=
      isStillExist_of_not_shutDown xmpp (alive handler List.mem_cons_self)
    have tail := inductionHypothesis (fun other member =>
      alive other (List.mem_cons_of_mem _ member)) (fun count => check (count + 1))
    simp only [StateMachine.checkStateHandlersExist, first, tail]

theorem offered_fst (reading : Reading) (event : XmppEvent) (handler : InitStateHandler)
    (xmpp : Xmpp) :
    (handler.offered reading event xmpp).1 = (handler.isYourEvent reading event xmpp).1 ∧
      (handler.offered reading event xmpp).2.1 =
        (handler.isYourEvent reading event xmpp).2.1 := by
  unfold offered
  rcases handler.isYourEvent reading event xmpp with ⟨accepted, next, later⟩
  cases accepted <;> exact ⟨rfl, rfl⟩

theorem polled_fst (reading : Reading) (handler : InitStateHandler) (xmpp : Xmpp) :
    (handler.polled reading xmpp).1 = (handler.pollStateHandler reading xmpp).2.1 := by
  unfold polled
  rcases handler.pollStateHandler reading xmpp with ⟨changed, next, later⟩
  cases changed <;> rfl

/-- The last notified state after an event: that of the handler if it accepts the event. -/
theorem lastInitState_offered (reading : Reading) (event : XmppEvent)
    (handler : InitStateHandler) (xmpp : Xmpp) :
    (handler.offered reading event xmpp).2.2.lastInitState =
      if (handler.isYourEvent reading event xmpp).1
        then (handler.isYourEvent reading event xmpp).2.1.state else xmpp.lastInitState := by
  have quiet := (loginOnly_isYourEvent reading handler event xmpp).quiet
  unfold offered
  rcases outcome : handler.isYourEvent reading event xmpp with ⟨accepted, next, later⟩
  rw [outcome] at quiet
  cases accepted with
  | true => rfl
  | false => exact quiet.lastInitState

/-- The last notified state after a poll: that of the handler if it reports a change. -/
theorem lastInitState_polled (reading : Reading) (handler : InitStateHandler) (xmpp : Xmpp) :
    (handler.polled reading xmpp).2.lastInitState =
      if (handler.pollStateHandler reading xmpp).1
        then (handler.pollStateHandler reading xmpp).2.1.state else xmpp.lastInitState := by
  have quiet := (loginOnly_pollStateHandler reading handler xmpp).quiet
  unfold polled
  rcases outcome : handler.pollStateHandler reading xmpp with ⟨changed, next, later⟩
  rw [outcome] at quiet
  cases changed with
  | true => rfl
  | false => exact quiet.lastInitState

theorem signalEvent_single {handler : InitStateHandler} {event : XmppEvent} (going : handler.Going)
    (fromConnection : event.data.fromConnection = true) (readings : Readings) (xmpp : Xmpp) :
    StateMachine.signalEvent initVirtuals readings event false [handler] xmpp =
      ((handler.offered readings.offer event xmpp).1,
        [(handler.offered readings.offer event xmpp).2.1],
        (handler.offered readings.offer event xmpp).2.2) := by
  have alive := (going.isYourEvent readings.offer fromConnection xmpp).notShutDown
  rcases outcome : handler.isYourEvent readings.offer event xmpp with ⟨accepted, next, later⟩
  have offers : initVirtuals.isYourEvent readings.offer handler event xmpp =
    (accepted, next, later) := outcome
  rw [outcome] at alive
  have checked := checkStateHandlersExist_alive (List.forall_mem_singleton.mpr alive)
    readings.check
  cases accepted with
  | true =>
    simp only [StateMachine.signalEvent, StateMachine.handleEvent, StateMachine.offer, offers,
      checked, offered, outcome]
    rfl
  | false =>
    have unknown : initVirtuals.unknownEvent readings.offer event later = (none, later) := rfl
    simp only [StateMachine.signalEvent, StateMachine.handleEvent, StateMachine.offer, offers,
      Option.map_none, unknown, checked, offered, outcome, Bool.false_eq_true, if_false]

theorem pollStateHandlers_single {handler : InitStateHandler} (going : handler.Going)
    (readings : Readings) (xmpp : Xmpp) :
    StateMachine.pollStateHandlers initVirtuals readings [handler] xmpp =
      ([(handler.polled (readings.poll 0) xmpp).1], (handler.polled (readings.poll 0) xmpp).2) := by
  have alive := (going.pollStateHandler (readings.poll 0) xmpp).notShutDown
  rcases outcome : handler.pollStateHandler (readings.poll 0) xmpp with ⟨changed, next, later⟩
  have polls : initVirtuals.pollStateHandler (readings.poll 0) handler xmpp =
    (changed, next, later) := outcome
  rw [outcome] at alive
  have checked := checkStateHandlersExist_alive (List.forall_mem_singleton.mpr alive)
    readings.check
  cases changed with
  | true =>
    rw [StateMachine.pollStateHandlers, StateMachine.pollUntilChange_changed polls]
    simp only [checked, polled, outcome]
    rfl
  | false =>
    rw [StateMachine.pollStateHandlers, StateMachine.pollUntilChange_same polls]
    simp only [StateMachine.pollUntilChange, checked, polled, outcome]

end InitStateHandler

theorem refusesUnchanged_initVirtuals : StateMachine.RefusesUnchanged initVirtuals :=
  fun _ _ _ _ refused => InitStateHandler.isYourEvent_refused refused

/-! ### The driver of a session -/

/-- The driver is in the machine, and nothing else is. -/
structure Lists (machine : StateMachineBase InitStateHandler XmppEvent)
    (handler : InitStateHandler) : Prop where
  stateHandlers : machine.stateHandlers = [handler]
  handlerRequests : machine.handlerRequests = []
  events : machine.events = []
  going : handler.Going

/-- The driver waits to be added, and nothing else is in the machine. -/
structure Waits (machine : StateMachineBase InitStateHandler XmppEvent)
    (handler : InitStateHandler) : Prop where
  stateHandlers : machine.stateHandlers = []
  handlerRequests : machine.handlerRequests = [handler]
  requestChange : 0 < machine.requestChange
  events : machine.events = []
  going : handler.Going

/-- A request for a new handler of the login adds it silently. -/
theorem handleRequest_init (readings : StateMachineBase.RequestReadings)
    {handler : InitStateHandler} (alive : handler.state ≠ .shutDown)
    (handlers : List InitStateHandler) (xmpp : Xmpp) :
    StateMachineBase.handleRequest initVirtuals readings handler handlers xmpp =
      (handlers ++ [handler], xmpp) := by
  have exists_ : initVirtuals.isStillExist readings.check handler xmpp = (true, handler, xmpp) :=
    InitStateHandler.isStillExist_of_not_shutDown xmpp alive
  have without : initVirtuals.hasPreExecute handler = false := rfl
  simp only [StateMachineBase.handleRequest, without, exists_, Bool.false_eq_true, if_false,
    StateMachine.addStateHandler]

theorem getEvents_of_nil {machine : StateMachineBase InitStateHandler XmppEvent}
    (none : machine.events = []) :
    machine.getEvents.1 = [] ∧ machine.getEvents.2.events = [] := by
  unfold StateMachineBase.getEvents StateMachineBase.takeEvents
  split_ifs
  · exact ⟨none, rfl⟩
  · exact ⟨rfl, none⟩

/-- A poll of a machine whose only handler is in it or waits for it polls that handler. -/
theorem pollMachine_single {machine : StateMachineBase InitStateHandler XmppEvent}
    {handler : InitStateHandler} (going : handler.Going) (none : machine.events = [])
    (readings : StateMachineBase.PollReadings) (xmpp : Xmpp)
    (left : machine.getRequests.2.handlerRequests = [])
    (added : StateMachineBase.handleRequests initVirtuals readings.requests machine.getRequests.1
      machine.stateHandlers xmpp = ([handler], xmpp)) :
    Lists (machine.pollStateHandlers initVirtuals readings xmpp).1
        (handler.polled (readings.last.poll 0) xmpp).1 ∧
      (machine.pollStateHandlers initVirtuals readings xmpp).2 =
        (handler.polled (readings.last.poll 0) xmpp).2 := by
  obtain ⟨noneTaken, noneLeft⟩ := getEvents_of_nil
    (machine.events_getRequests.trans none)
  have stillGoing := going.pollStateHandler (readings.last.poll 0) xmpp
  rw [← InitStateHandler.polled_fst] at stillGoing
  simp only [StateMachineBase.pollStateHandlers_eq, added, noneTaken,
    StateMachineBase.signalEvents, InitStateHandler.pollStateHandlers_single going]
  refine ⟨⟨rfl, ?_, noneLeft, stillGoing⟩, trivial⟩
  rw [StateMachineBase.handlerRequests_getEvents]
  exact left

theorem Lists.pollMachine {machine : StateMachineBase InitStateHandler XmppEvent}
    {handler : InitStateHandler} (lists : Lists machine handler)
    (readings : StateMachineBase.PollReadings) (xmpp : Xmpp) :
    Lists (machine.pollStateHandlers initVirtuals readings xmpp).1
        (handler.polled (readings.last.poll 0) xmpp).1 ∧
      (machine.pollStateHandlers initVirtuals readings xmpp).2 =
        (handler.polled (readings.last.poll 0) xmpp).2 := by
  have split := machine.getRequests_append
  rw [lists.handlerRequests, List.append_eq_nil_iff] at split
  refine pollMachine_single lists.going lists.events readings xmpp split.2 ?_
  rw [split.1, lists.stateHandlers]
  rfl

theorem Waits.pollMachine {machine : StateMachineBase InitStateHandler XmppEvent}
    {handler : InitStateHandler} (waits : Waits machine handler)
    (readings : StateMachineBase.PollReadings) (xmpp : Xmpp) :
    Lists (machine.pollStateHandlers initVirtuals readings xmpp).1
        (handler.polled (readings.last.poll 0) xmpp).1 ∧
      (machine.pollStateHandlers initVirtuals readings xmpp).2 =
        (handler.polled (readings.last.poll 0) xmpp).2 := by
  have taken : machine.getRequests = machine.takeRequests := if_pos waits.requestChange
  refine pollMachine_single waits.going waits.events readings xmpp (by rw [taken]; rfl) ?_
  rw [taken]
  show StateMachineBase.handleRequests initVirtuals readings.requests machine.handlerRequests
    machine.stateHandlers xmpp = _
  rw [waits.handlerRequests, waits.stateHandlers, StateMachineBase.handleRequests,
    handleRequest_init _ waits.going.notShutDown]
  rfl

theorem Lists.signalEvent {machine : StateMachineBase InitStateHandler XmppEvent}
    {handler : InitStateHandler} (lists : Lists machine handler) (readings : Readings)
    {event : XmppEvent} (fromConnection : event.data.fromConnection = true) (xmpp : Xmpp) :
    (machine.signalEvent initVirtuals readings event false xmpp).1 =
        (handler.offered readings.offer event xmpp).1 ∧
      Lists (machine.signalEvent initVirtuals readings event false xmpp).2.1
        (handler.offered readings.offer event xmpp).2.1 ∧
      (machine.signalEvent initVirtuals readings event false xmpp).2.2 =
        (handler.offered readings.offer event xmpp).2.2 := by
  have stillGoing := lists.going.isYourEvent readings.offer fromConnection xmpp
  rw [← (InitStateHandler.offered_fst readings.offer event handler xmpp).2] at stillGoing
  unfold StateMachineBase.signalEvent
  rw [lists.stateHandlers, InitStateHandler.signalEvent_single lists.going fromConnection]
  exact ⟨rfl, ⟨rfl, lists.handlerRequests, lists.events, stillGoing⟩, rfl⟩

theorem Waits.signalEvent {machine : StateMachineBase InitStateHandler XmppEvent}
    {handler : InitStateHandler} (waits : Waits machine handler) (readings : Readings)
    (event : XmppEvent) (xmpp : Xmpp) :
    (machine.signalEvent initVirtuals readings event false xmpp).1 = false ∧
      Waits (machine.signalEvent initVirtuals readings event false xmpp).2.1 handler ∧
      (machine.signalEvent initVirtuals readings event false xmpp).2.2 = xmpp := by
  unfold StateMachineBase.signalEvent
  rw [waits.stateHandlers]
  exact ⟨rfl, ⟨rfl, waits.handlerRequests, waits.requestChange, waits.events, waits.going⟩, rfl⟩

end JnTapi
