/-
This file proves that every call ends.

Each kind of handler has a list of time limits, one for each state. A handler never
gets into a state that its list lacks, unless it is dropped; so it is dropped by the
first check after the limit of its state, and the check after that removes it. The
time in a state is a difference of two tick counts and is right across their wrap, as
long as it is below half of their range.
-/

import JnTapi.Library.Ticks
import JnTapi.Call.SipCalls

namespace JnTapi

open Library

namespace CallHandler

/-! ### The limits of a kind -/

/-- The time limits of `IsStillExist` of the handler's class -/
def timeLimits : CallHandlerKind → List (CallStates × Int)
  | .outgoing => [(.physicalOutProceeding, outboundRequestTimeout),
      (.connected, connectedCallTimeout), (.preDropCall, dropRequestTimeout)]
  | .incoming => [(.offering, inboundOfferingTimeout), (.connected, connectedCallTimeout),
      (.preDropCall, dropRequestTimeout)]
  | .makeCall _ => [(.makeCallSet, makeCallCreateTimeout),
      (.makeCallRequested, makeCallInboundRequestTimeout),
      (.makeCallRequestedAnswered, makeCallInboundAnsweredTimeout),
      (.makeCallOutgoingCreated, outboundRequestTimeout), (.connected, connectedCallTimeout),
      (.preDropCall, dropRequestTimeout)]

/-- The time limit of a state, for a handler of this kind -/
def timeLimit (kind : CallHandlerKind) (state : CallStates) : Option Int :=
  (timeLimits kind).lookup state

theorem isStillExist_eq (reading : Reading) (handler : CallHandler) (xmpp : Xmpp) :
    handler.isStillExist reading xmpp =
      stillExists reading (timeLimits handler.kind) handler xmpp := by
  unfold isStillExist
  cases handler.kind <;> rfl

theorem nodup_timeLimits (kind : CallHandlerKind) : ((timeLimits kind).map Prod.fst).Nodup := by
  cases kind with
  | makeCall make =>
    show [CallStates.makeCallSet, .makeCallRequested, .makeCallRequestedAnswered,
      .makeCallOutgoingCreated, .connected, .preDropCall].Nodup
    decide
  | _ => decide

/-- A state without a limit is not left. -/
theorem stillExists_of_lookup_none (reading : Reading) {limits : List (CallStates × Int)}
    {handler : CallHandler} (none : limits.lookup handler.state = none) (xmpp : Xmpp) :
    stillExists reading limits handler xmpp =
      (decide (handler.state ≠ .dropped), handler, xmpp) := by
  induction limits with
  | nil => rfl
  | cons limit rest inductionHypothesis =>
    obtain ⟨callState, timeout⟩ := limit
    rw [List.lookup_cons] at none
    split at none
    · cases none
    · rename_i differs
      have other : handler.state ≠ callState := by simpa using differs
      rw [stillExists, checkStateTimeout, if_neg fun both => other both.1]
      exact inductionHypothesis none

/-- With the time-outs switched on, the limit of the state decides. -/
theorem stillExists_of_lookup {reading : Reading} (enabled : reading.disableTimeout = 0)
    {limits : List (CallStates × Int)} (distinct : (limits.map Prod.fst).Nodup)
    {handler : CallHandler} {timeout : Int} (found : limits.lookup handler.state = some timeout)
    (xmpp : Xmpp) :
    stillExists reading limits handler xmpp =
      if timeout < handler.currentState.msecsSinceLastStateChange reading then
        (true, handler.timedOut reading, xmpp.release handler.currentState.eventData)
      else (decide (handler.state ≠ .dropped), handler, xmpp) := by
  induction limits with
  | nil => cases found
  | cons limit rest inductionHypothesis =>
    obtain ⟨callState, limitTimeout⟩ := limit
    rw [List.map_cons, List.nodup_cons] at distinct
    rw [List.lookup_cons] at found
    split at found
    · rename_i same
      have here : handler.state = callState := by simpa using same
      obtain rfl := Option.some.inj found
      rw [stillExists, checkStateTimeout]
      by_cases late : limitTimeout < handler.currentState.msecsSinceLastStateChange reading
      · rw [if_pos ⟨here, late⟩, if_neg (not_not.mpr enabled), if_pos late]
        rfl
      · rw [if_neg fun both => late both.2, if_neg late]
        refine stillExists_of_lookup_none reading ?_ xmpp
        rw [here, List.lookup_eq_none_iff]
        intro other member
        exact bne_iff_ne.mpr fun same =>
          distinct.1 (List.mem_map.mpr ⟨other, member, same.symm⟩)
    · rename_i differs
      have other : handler.state ≠ callState := by simpa using differs
      rw [stillExists, checkStateTimeout, if_neg fun both => other both.1]
      exact inductionHypothesis distinct.2 found

/-! ### The states of a kind -/

/-- The handler is dropped, or its state has a limit. -/
def Limited (handler : CallHandler) : Prop :=
  handler.state = .dropped ∨ (timeLimit handler.kind handler.state).isSome = true

/-- Every kind has limits for a connected call and for one that is being dropped. -/
theorem limited_of_state {handler : CallHandler}
    (state : handler.state = .dropped ∨ handler.state = .preDropCall ∨
      handler.state = .connected) : handler.Limited := by
  unfold Limited
  rcases state with same | same | same
  · exact Or.inl same
  · rw [same]
    exact Or.inr (by cases handler.kind <;> rfl)
  · rw [same]
    exact Or.inr (by cases handler.kind <;> rfl)

/-- The data of the kind do not matter. -/
theorem Limited.of_eq {handler next : CallHandler} (limited : handler.Limited)
    (kind : timeLimits next.kind = timeLimits handler.kind) (state : next.state = handler.state) :
    next.Limited := by
  unfold Limited timeLimit at *
  rw [kind, state]
  exact limited

/-- The end of `IsYourEvent` gives the call up at most. -/
theorem Limited.dropRequestOrReply {handler : CallHandler} (limited : handler.Limited)
    (reading : Reading) (event : XmppEvent) (xmpp : Xmpp) :
    (handler.dropRequestOrReply reading event xmpp).2.1.Limited := by
  obtain ⟨contextIds, result | result⟩ := dropRequestOrReply_handler reading handler event xmpp
  · rw [result]
    exact limited.of_eq rfl rfl
  · rw [result]
    exact limited_of_state (Or.inr (Or.inl rfl))

/-- What an event makes of the handler of a call on the phone -/
theorem Limited.onPhone {handler : CallHandler} (limited : handler.Limited)
    (kind : handler.kind = .outgoing ∨ handler.kind = .incoming) (reading : Reading)
    (event : XmppEvent) (xmpp : Xmpp) :
    (handler.isYourEvent reading event xmpp).2.1.Limited := by
  have dropped : ∀ next : CallHandler,
      (next.assignNewState reading .dropped (some event) xmpp).1.Limited := fun next =>
    limited_of_state (Or.inl rfl)
  have replied := limited.dropRequestOrReply reading event xmpp
  have stays : ∀ next : CallHandler, next.kind = handler.kind → next.state = handler.state →
      next.Limited := fun next sameKind => limited.of_eq (congrArg timeLimits sameKind)
  unfold isYourEvent
  rcases kind with outgoing | incoming
  · rw [outgoing]
    dsimp only
    unfold outgoingIsYourEvent
    split
    · split_ifs
      · exact limited
      · exact limited_of_state (Or.inr (Or.inr rfl))
      · exact stays _ rfl rfl
    · split_ifs
      · exact limited
      · exact dropped handler
    · exact replied
  · rw [incoming]
    dsimp only
    unfold incomingIsYourEvent
    split
    · split_ifs
      · exact limited
      · exact limited_of_state (Or.inr (Or.inr rfl))
      · exact stays _ rfl rfl
    · split_ifs
      · exact limited
      · rcases handler.branches.checkDroppedCall handler.stateData event.id with
          ⟨last, callData, branches⟩
        cases last with
        | true => exact dropped _
        | false => exact stays _ rfl rfl
    · exact replied

/-- Every state of the protocol has a limit. -/
theorem limited_of_legs {setup : TString} {make : MakeCallData} {handler : CallHandler}
    {legs : List Leg} (making : handler.Making setup make)
    (inside : legsFrom make handler.state = some legs) : handler.Limited := by
  obtain ⟨data, kind, -⟩ := making.kind
  unfold Limited
  rw [kind]
  cases state : handler.state with
  | makeCallSet | makeCallRequested | makeCallRequestedAnswered | makeCallOutgoingCreated
  | connected => exact Or.inr rfl
  | _ =>
    rw [state] at inside
    cases inside

/-- No move takes a handler to a state without a limit. -/
theorem Limited.moved {handler : CallHandler} (known : handler.Known) (limited : handler.Limited)
    (next : Move) : (handler.moved next).Limited := by
  cases next with
  | check reading xmpp =>
    unfold CallHandler.moved
    rcases isStillExist_cases reading handler xmpp with same | ⟨-, lapsed⟩
    · simp only [same]
      exact limited
    · simp only [lapsed]
      exact limited_of_state (Or.inl rfl)
  | event reading given xmpp =>
    rcases known with ⟨sipCallId, onPhone⟩ | ⟨setup, make, printable, making⟩
    · exact limited.onPhone onPhone.kind reading given xmpp
    · obtain ⟨remains, goes⟩ := making.moved printable (.event reading given xmpp)
      rcases goes with same | ended | ⟨leg, rest, event, -, -, -, -, after⟩
      · obtain ⟨data, kind, -⟩ := making.kind
        obtain ⟨nextData, nextKind, -⟩ := remains.kind
        exact limited.of_eq (by rw [kind, nextKind]; rfl) same
      · rcases ended with dropped | dropping
        · exact limited_of_state (Or.inl dropped)
        · exact limited_of_state (Or.inr (Or.inl dropping))
      · exact limited_of_legs remains after

theorem limited_created {handler : CallHandler} (created : handler.Created) : handler.Limited := by
  rcases created with ⟨reading, event, ace, callId, -, -, rfl⟩ |
    ⟨reading, event, ace, callId, -, -, rfl⟩ | ⟨new, reading, xmpp, ⟨first, toDial, callId, rfl⟩, rfl⟩
  · exact Or.inr rfl
  · exact Or.inr rfl
  · exact Or.inr rfl

/-- Every handler in a reachable machine is dropped or in a state with a limit. -/
theorem limited_of_run {login : LoginInfo} {actions : List CallAction} {system : CallSystem}
    (reached : run CallSystem.step actions (CallSystem.new login) = some system) :
    ∀ handler ∈ system.stateHandlers, handler.Limited := by
  intro handler member
  have both := @forall_of_run (fun handler => handler.Known ∧ handler.Limited)
    (fun handler next held => ⟨held.1.moved next, Limited.moved held.1 held.2 next⟩)
    (fun handler created => ⟨known_created created, limited_created created⟩) _ _ _ reached
  exact (both handler member).2

/-! ### The end of a call -/

/-- A dropped handler is notified and removed where it stands. -/
theorem checkStateHandlersExist_dropped (check : Nat → Reading) {handler : CallHandler}
    (dropped : handler.state = .dropped) (before after : List CallHandler) (xmpp : Xmpp) :
    StateMachine.checkStateHandlersExist callVirtuals check (before ++ handler :: after) xmpp =
      let checked := StateMachine.checkStateHandlersExist callVirtuals check before xmpp
      let notified := checked.2.callStateChange ⟨.removedHandler, .dropped, handler.stateData⟩
      let rest := StateMachine.checkStateHandlersExist callVirtuals
        (fun count => check (before.length + 1 + count)) after
        (notified.release handler.currentState.eventData)
      (checked.1 ++ rest.1, rest.2) := by
  induction before generalizing check xmpp with
  | nil =>
    have gone : callVirtuals.isStillExist (check 0) handler xmpp = (false, handler, xmpp) :=
      isStillExist_dropped dropped
    simp only [List.nil_append, StateMachine.checkStateHandlersExist, gone, List.length_nil,
      Nat.zero_add, Nat.add_comm 1]
    show StateMachine.checkStateHandlersExist callVirtuals _ after
      (deleteHandler handler (onStateChange handler .removedHandler xmpp)) = _
    rw [deleteHandler, onStateChange, dropped]
  | cons first rest inductionHypothesis =>
    have shifted : ∀ count, rest.length + 1 + count + 1 = rest.length + 1 + 1 + count := by omega
    rw [List.cons_append, StateMachine.checkStateHandlersExist,
      StateMachine.checkStateHandlersExist]
    rcases callVirtuals.isStillExist (check 0) first xmpp with ⟨remains, next, later⟩
    cases remains with
    | true => simp only [inductionHypothesis, List.length_cons, shifted, List.cons_append]
    | false => simp only [inductionHypothesis, List.length_cons, shifted]

/-- Every call ends. A handler of a reachable machine that is not dropped is in a state with a
time limit: a check within the limit leaves it, the first check past the limit drops it, and the
check after that notifies its removal and removes it. -/
theorem ends_within_limit {login : LoginInfo} {actions : List CallAction} {system : CallSystem}
    (reached : run CallSystem.step actions (CallSystem.new login) = some system)
    {handler : CallHandler} (member : handler ∈ system.stateHandlers)
    (alive : handler.state ≠ .dropped) :
    ∃ limit, timeLimit handler.kind handler.state = some limit ∧
      ∀ (reading : Reading) (elapsed : Nat) (xmpp : Xmpp), elapsed < 2 ^ 31 →
        reading.tickCount = handler.currentState.lastStateChange + BitVec.ofNat 32 elapsed →
        reading.disableTimeout = 0 →
        (elapsed ≤ limit → handler.isStillExist reading xmpp = (true, handler, xmpp)) ∧
        (limit < elapsed → ∃ next later, handler.isStillExist reading xmpp = (true, next, later) ∧
          next.state = .dropped ∧ next.stateData = handler.stateData ∧
          ∀ (check : Nat → Reading) (before after : List CallHandler) (object : Xmpp),
            StateMachine.checkStateHandlersExist callVirtuals check (before ++ next :: after)
                object =
              let checked := StateMachine.checkStateHandlersExist callVirtuals check before object
              let notified :=
                checked.2.callStateChange ⟨.removedHandler, .dropped, handler.stateData⟩
              let rest := StateMachine.checkStateHandlersExist callVirtuals
                (fun count => check (before.length + 1 + count)) after
                (notified.release next.currentState.eventData)
              (checked.1 ++ rest.1, rest.2)) := by
  have limited := (limited_of_run reached handler member).resolve_left alive
  obtain ⟨limit, found⟩ := Option.isSome_iff_exists.mp limited
  refine ⟨limit, found, ?_⟩
  intro reading elapsed xmpp small ticks enabled
  have time : handler.currentState.msecsSinceLastStateChange reading = elapsed := by
    rw [StateItem.msecsSinceLastStateChange, ticks]
    exact toInt_elapsed (by omega) _
  have outcome := stillExists_of_lookup enabled (nodup_timeLimits handler.kind) found xmpp
  rw [← isStillExist_eq, time] at outcome
  constructor
  · intro within
    rw [outcome, if_neg (not_lt.mpr within), decide_eq_true alive]
  · intro late
    rw [if_pos late] at outcome
    exact ⟨handler.timedOut reading, _, outcome, rfl, rfl, fun check before after object =>
      checkStateHandlersExist_dropped check rfl before after object⟩

end CallHandler

/-- A call that starts to ring on the last tick before the count wraps -/
def Example.lastTick : List CallAction :=
  [.signalEvent (readings (2 ^ 32 - 1)) (activeCall "one" "call" .requested) true]

open CallHandler in
theorem ends_within_limit_lastTick :
    ∃ system handler next later,
      run CallSystem.step Example.lastTick (CallSystem.new Example.login) = some system ∧
      handler ∈ system.stateHandlers ∧ handler.state = .offering ∧
      handler.isStillExist (Example.reading 120000) system.xmpp = (true, next, later) ∧
      next.state = .dropped := by
  have reached : run CallSystem.step Example.lastTick (CallSystem.new Example.login) = some _ := rfl
  obtain ⟨limit, found, holds⟩ := ends_within_limit reached List.mem_cons_self (by decide)
  obtain rfl := Option.some.inj found
  obtain ⟨-, late⟩ := holds (Example.reading 120000) 120001 _ (by decide) (by decide) rfl
  obtain ⟨next, later, drops, dropped, -⟩ := late (by decide)
  exact ⟨_, _, next, later, reached, List.mem_cons_self, rfl, drops, dropped⟩

end JnTapi
