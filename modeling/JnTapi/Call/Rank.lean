/-
This file proves in which order a call goes through its states.

The states are ranked by how far the call has come. An event takes a handler back
in rank in two cases only: an incoming or an outgoing call that is being dropped,
or is dropped, is confirmed, and a dropped call is asked to be dropped. The check
of the time limits never takes a handler back. What a handler makes of its events
and checks in the course of a run is a history of such moves.
-/

import JnTapi.Call.History

namespace JnTapi

open Library

/-- How far a call in this state has come. -/
def CallStates.rank : CallStates → Nat
  | .unknown | .preMakeCall | .physicalOutProceeding | .offering | .makeCallSet => 0
  | .makeCallRequested => 1
  | .makeCallRequestedAnswered => 2
  | .makeCallOutgoingCreated => 3
  | .connected => 4
  | .preDropCall => 5
  | .dropped => 6

theorem CallStates.rank_le_dropped (state : CallStates) :
    state.rank ≤ CallStates.dropped.rank := by
  cases state <;> decide

/-- No state ranks with or above a dropped call but the dropped call itself. -/
theorem CallStates.eq_dropped_of_rank {state : CallStates}
    (above : CallStates.dropped.rank ≤ state.rank) : state = .dropped := by
  cases state <;> first | rfl | exact absurd above (by decide)

/-- A call that is being dropped is passed only by a dropped one. -/
theorem CallStates.of_rank_preDropCall {state : CallStates}
    (above : CallStates.preDropCall.rank ≤ state.rank) :
    state = .preDropCall ∨ state = .dropped := by
  cases state <;> first | exact Or.inl rfl | exact Or.inr rfl | exact absurd above (by decide)

namespace CallHandler

/-! ### The state that an event leaves -/

@[simp] theorem state_assignNewState (reading : Reading) (state : CallStates)
    (eventData : Option XmppEvent) (handler : CallHandler) (xmpp : Xmpp) :
    (handler.assignNewState reading state eventData xmpp).1.state = state := rfl

@[simp] theorem state_assignCallStateData (id : TString) (ace : ActiveCall)
    (updateCallerId : Bool) (handler : CallHandler) :
    (handler.assignCallStateData id ace updateCallerId).state = handler.state := rfl

@[simp] theorem state_addBranch (id : TString) (ace : ActiveCall) (updateCallerId : Bool)
    (callSetupId : Option TString) (handler : CallHandler) :
    (handler.addBranch id ace updateCallerId callSetupId).state = handler.state := rfl

@[simp] theorem state_withMake (make : MakeCallData) (handler : CallHandler) :
    (handler.withMake make).state = handler.state := rfl

/-- The two cases in which an event takes a handler back in rank. -/
def GoesBack (event : XmppEvent) (handler : CallHandler) : Prop :=
  match event.data with
  | .activeCall ace => (handler.kind = .outgoing ∨ handler.kind = .incoming) ∧
      (handler.state = .preDropCall ∨ handler.state = .dropped) ∧
      ace.sipCallid = handler.stateData.sipCallId ∧ ace.dialogState = .confirmed
  | .dropRequest callId => handler.state = .dropped ∧ callId = handler.callId
  | _ => False

instance (event : XmppEvent) (handler : CallHandler) : Decidable (handler.GoesBack event) := by
  unfold GoesBack
  cases event.data <;> infer_instance

/-- The state that an outcome leaves ranks at least as high as that of the handler. -/
def Advances (handler : CallHandler) (outcome : Bool × CallHandler × Xmpp) : Prop :=
  handler.state.rank ≤ outcome.2.1.state.rank

theorem advances_of_state {handler : CallHandler} {outcome : Bool × CallHandler × Xmpp}
    (same : outcome.2.1.state = handler.state) : Advances handler outcome := by
  rw [Advances, same]

theorem advances_of_dropped {handler : CallHandler} {outcome : Bool × CallHandler × Xmpp}
    (dropped : outcome.2.1.state = .dropped) : Advances handler outcome := by
  rw [Advances, dropped]
  exact handler.state.rank_le_dropped

/-- A request to drop the call takes back a dropped one only. -/
theorem advances_dropRequestOrReply (reading : Reading) (handler : CallHandler)
    (event : XmppEvent) (xmpp : Xmpp) (noCall : ∀ ace, event.data ≠ .activeCall ace) :
    Advances handler (handler.dropRequestOrReply reading event xmpp) ↔
      ¬ handler.GoesBack event := by
  unfold dropRequestOrReply checkDropRequestEvent checkIqReplyDropRequest GoesBack
  cases data : event.data with
  | activeCall ace => exact absurd data (noCall ace)
  | dropRequest callId =>
    by_cases same : callId = handler.callId
    · simp only [same, ne_eq, not_true_eq_false, if_false, and_true]
      show handler.state.rank ≤ CallStates.preDropCall.rank ↔ _
      cases handler.state <;> decide
    · simp only [ne_eq, same, not_false_eq_true, if_true, and_false]
      exact iff_of_true (advances_of_state rfl) trivial
  | iqResult =>
    by_cases member : event.context ∈ handler.droppedContextIds
    · simp only [member, if_true, not_false_eq_true, iff_true]
      exact advances_of_state rfl
    · simp only [member, if_false, not_false_eq_true, iff_true]
      exact advances_of_state rfl
  | _ => exact iff_of_true (advances_of_state rfl) not_false

/-- A confirmed call is connected, whatever its state was. -/
theorem advances_connected {state : CallStates} :
    state.rank ≤ CallStates.connected.rank ↔ ¬ (state = .preDropCall ∨ state = .dropped) := by
  cases state <;> decide

/-- The part that the outgoing and the incoming handlers have in common: an active-call event of
the call. -/
theorem advances_activeCall {handler : CallHandler} {event : XmppEvent} {ace : ActiveCall}
    {outcome : Bool × CallHandler × Xmpp} (data : event.data = .activeCall ace)
    (kind : handler.kind = .outgoing ∨ handler.kind = .incoming)
    (result : outcome.2.1.state =
      if ace.sipCallid = handler.stateData.sipCallId ∧ ace.dialogState = .confirmed then .connected
      else handler.state) :
    Advances handler outcome ↔ ¬ handler.GoesBack event := by
  have goesBack : handler.GoesBack event ↔ (handler.kind = .outgoing ∨ handler.kind = .incoming) ∧
      (handler.state = .preDropCall ∨ handler.state = .dropped) ∧
      ace.sipCallid = handler.stateData.sipCallId ∧ ace.dialogState = .confirmed := by
    rw [GoesBack, data]
  rw [goesBack, Advances, result]
  split_ifs with confirmed
  · rw [advances_connected]
    simp only [kind, confirmed, and_self, and_true, true_and]
  · simp only [confirmed, and_false, not_false_eq_true, le_refl]

/-- The retract of a branch leaves the state as it is or drops the call. -/
theorem advances_retracted (reading : Reading) (handler : CallHandler) (event : XmppEvent)
    (xmpp : Xmpp) :
    Advances handler
      (match handler.branches.checkDroppedCall handler.stateData event.id with
      | (true, callData, branches) =>
        (true, assignNewState reading .dropped (some event)
          { handler.withStateData callData with branches := branches } xmpp)
      | (false, callData, branches) =>
        (true, { handler.withStateData callData with branches := branches },
          xmpp.deleteEvent event)) := by
  split
  · exact advances_of_dropped rfl
  · exact advances_of_state rfl

theorem advances_outgoing (reading : Reading) {handler : CallHandler} (event : XmppEvent)
    (xmpp : Xmpp) (kind : handler.kind = .outgoing) :
    Advances handler (handler.outgoingIsYourEvent reading event xmpp) ↔
      ¬ handler.GoesBack event := by
  unfold outgoingIsYourEvent
  split
  · rename_i ace data
    refine advances_activeCall data (Or.inl kind) ?_
    by_cases same : ace.sipCallid = handler.stateData.sipCallId <;>
      by_cases confirmed : ace.dialogState = .confirmed <;>
      simp [same, confirmed]
  · rename_i data
    have forward : ¬ handler.GoesBack event := by
      simp only [GoesBack, data, not_false_eq_true]
    refine iff_of_true ?_ forward
    split_ifs
    · exact advances_of_state rfl
    · exact advances_of_dropped rfl
  · rename_i noCall _
    exact advances_dropRequestOrReply reading handler event xmpp noCall

theorem advances_incoming (reading : Reading) {handler : CallHandler} (event : XmppEvent)
    (xmpp : Xmpp) (kind : handler.kind = .incoming) :
    Advances handler (handler.incomingIsYourEvent reading event xmpp) ↔
      ¬ handler.GoesBack event := by
  unfold incomingIsYourEvent
  split
  · rename_i ace data
    refine advances_activeCall data (Or.inr kind) ?_
    by_cases same : ace.sipCallid = handler.stateData.sipCallId <;>
      by_cases confirmed : ace.dialogState = .confirmed <;>
      simp [same, confirmed]
  · rename_i data
    have forward : ¬ handler.GoesBack event := by
      simp only [GoesBack, data, not_false_eq_true]
    refine iff_of_true ?_ forward
    split_ifs
    · exact advances_of_state rfl
    · exact advances_retracted reading handler event xmpp
  · rename_i noCall _
    exact advances_dropRequestOrReply reading handler event xmpp noCall

/-- The handler of a call that the program makes looks at its state before it follows an
active-call event. -/
theorem advances_makeCallActiveCall (make : MakeCallData) (reading : Reading)
    (handler : CallHandler) (event : XmppEvent) (ace : ActiveCall) (xmpp : Xmpp) :
    Advances handler (handler.makeCallActiveCall make reading event ace xmpp) := by
  unfold makeCallActiveCall
  split_ifs with _ set requested _ answered _ created _
  · simp [Advances, set, CallStates.rank]
  · exact advances_of_state rfl
  · simp [Advances, requested.1, CallStates.rank]
  · exact advances_of_dropped rfl
  · simp [Advances, answered.1, CallStates.rank]
  · exact advances_of_dropped rfl
  · simp [Advances, created.1, CallStates.rank]
  · exact advances_of_dropped rfl
  · exact advances_of_state rfl

theorem advances_makeCall (make : MakeCallData) (reading : Reading) {handler : CallHandler}
    (event : XmppEvent) (xmpp : Xmpp) (kind : handler.kind = .makeCall make) :
    Advances handler (handler.makeCallIsYourEvent make reading event xmpp) ↔
      ¬ handler.GoesBack event := by
  have drops : Advances handler
    (true, handler.assignNewState reading .dropped (some event) xmpp) := advances_of_dropped rfl
  have deletes : Advances handler (true, handler, xmpp.deleteEvent event) := advances_of_state rfl
  unfold makeCallIsYourEvent
  split
  · rename_i ace data
    have forward : ¬ handler.GoesBack event := by
      simp [GoesBack, data, kind]
    refine iff_of_true ?_ forward
    split_ifs
    · exact advances_of_state rfl
    · exact drops
    · have follows := advances_makeCallActiveCall make reading
        (handler.addBranch event.id ace false handler.callSetupIdArgument) event ace xmpp
      exact follows
  · rename_i data
    have forward : ¬ handler.GoesBack event := by
      simp only [GoesBack, data, not_false_eq_true]
    refine iff_of_true ?_ forward
    split_ifs
    · exact advances_retracted reading handler event xmpp
    · exact drops
    · exact deletes
  · rename_i data
    have forward : ¬ handler.GoesBack event := by
      simp only [GoesBack, data, not_false_eq_true]
    refine iff_of_true ?_ forward
    split_ifs
    · exact drops
    · exact deletes
    · exact advances_of_state rfl
  · rename_i noCall _ _
    exact advances_dropRequestOrReply reading handler event xmpp noCall

/-- An event takes a handler back in rank in the two cases and in no other. -/
theorem advances_isYourEvent (reading : Reading) (handler : CallHandler) (event : XmppEvent)
    (xmpp : Xmpp) :
    Advances handler (handler.isYourEvent reading event xmpp) ↔ ¬ handler.GoesBack event := by
  unfold isYourEvent
  cases kind : handler.kind with
  | outgoing => exact advances_outgoing reading event xmpp kind
  | incoming => exact advances_incoming reading event xmpp kind
  | makeCall make => exact advances_makeCall make reading event xmpp kind

theorem advances_isStillExist (reading : Reading) (handler : CallHandler) (xmpp : Xmpp) :
    Advances handler (handler.isStillExist reading xmpp) := by
  rcases isStillExist_cases reading handler xmpp with same | ⟨-, lapsed⟩
  · rw [same]
    exact advances_of_state rfl
  · rw [lapsed]
    exact advances_of_dropped rfl

/-! ### Histories -/

/-- The move does not take the handler back. -/
def Forward (handler : CallHandler) : Move → Prop
  | .event _ event _ => ¬ handler.GoesBack event
  | .check _ _ => True

instance (handler : CallHandler) : (next : Move) → Decidable (handler.Forward next)
  | .event _ event _ => inferInstanceAs (Decidable (¬ handler.GoesBack event))
  | .check _ _ => inferInstanceAs (Decidable True)

theorem rank_moved {handler : CallHandler} {next : Move} (forward : handler.Forward next) :
    handler.state.rank ≤ (handler.moved next).state.rank := by
  cases next with
  | event reading event xmpp => exact (advances_isYourEvent reading handler event xmpp).mpr forward
  | check reading xmpp => exact advances_isStillExist reading handler xmpp

/-- A history none of whose moves goes back never goes back. -/
theorem rank_history {moves : List Move} {handler last : CallHandler}
    (reached : run move moves handler = some last) (forward : Along move Forward moves handler) :
    handler.state.rank ≤ last.state.rank := by
  have preserved : ∀ (earlier : CallHandler) next later, earlier.Forward next →
      move earlier next = some later → handler.state.rank ≤ earlier.state.rank →
      handler.state.rank ≤ later.state.rank := by
    intro earlier next later allowed moves_ before
    obtain rfl := Option.some.inj moves_
    exact before.trans (rank_moved allowed)
  exact run_invariant_along preserved reached forward (le_refl _)

end CallHandler

/-- An event given to a handler keeps the handler from going back in rank exactly when it is not
one of the two that go back; a check always does. Every handler of a reachable machine has come
there by such moves. In a history whose events all go forward, the rank never decreases from one
state to a later one, a call that is being dropped is only left for a dropped one, and a dropped
call stays dropped. -/
theorem rank_forward (handler : CallHandler) :
    (∀ (reading : Reading) (event : XmppEvent) (xmpp : Xmpp),
      handler.state.rank ≤ (handler.isYourEvent reading event xmpp).2.1.state.rank ↔
        ¬ handler.GoesBack event) ∧
    (∀ (reading : Reading) (xmpp : Xmpp),
      handler.state.rank ≤ (handler.isStillExist reading xmpp).2.1.state.rank) ∧
    (∀ login actions (system : CallSystem),
      run CallSystem.step actions (CallSystem.new login) = some system →
        handler ∈ system.stateHandlers → ∃ start moves, CallHandler.Created start ∧
          run CallHandler.move moves start = some handler) ∧
    ∀ moves (last : CallHandler), Along CallHandler.move CallHandler.Forward moves handler →
      run CallHandler.move moves handler = some last →
        handler.state.rank ≤ last.state.rank ∧
        (handler.state = .preDropCall → last.state = .preDropCall ∨ last.state = .dropped) ∧
        (handler.state = .dropped → last.state = .dropped) := by
  refine ⟨fun reading event xmpp => CallHandler.advances_isYourEvent reading handler event xmpp,
    fun reading xmpp => CallHandler.advances_isStillExist reading handler xmpp,
    fun login actions system reached => CallHandler.lived_of_run reached handler, ?_⟩
  intro moves last forward reached
  have ranks := CallHandler.rank_history reached forward
  refine ⟨ranks, fun dropping => ?_, fun dropped => ?_⟩
  · rw [dropping] at ranks
    exact CallStates.of_rank_preDropCall ranks
  · rw [dropped] at ranks
    exact CallStates.eq_dropped_of_rank ranks

/-- One uninterrupted poll at the given tick that finds no requests and one event. -/
def Example.pollOneEvent (tick : Nat) : List CallAction :=
  [.testRequests, .testEvents, .takeEvents, .signalNext (Example.readings tick),
    .pollHandlers (Example.readings tick)]

/-- An incoming call rings and is asked to be dropped. -/
def Example.ringAndDrop : List CallAction :=
  [.signalEvent (Example.readings 0) (Example.activeCall "a" "call" .requested) false,
    .dropCallAsync 1] ++ Example.pollOneEvent 5

/-- The user answers on the phone while the call is being dropped: the call is connected again. -/
theorem rank_ringAndDrop :
    ¬ ∀ login actions (system : CallSystem),
      run CallSystem.step actions (CallSystem.new login) = some system →
        ∀ handler ∈ system.stateHandlers, ∀ (reading : Reading) (event : XmppEvent),
          handler.state.rank ≤
            (handler.isYourEvent reading event system.xmpp).2.1.state.rank := by
  intro monotone
  have reached : run CallSystem.step Example.ringAndDrop (CallSystem.new Example.login) =
    some _ := rfl
  have kept := monotone Example.login Example.ringAndDrop _ reached _ List.mem_cons_self
    (Example.reading 6) (Example.activeCall "a" "call" .confirmed)
  revert kept
  decide

/-- An incoming call is asked to be dropped and retracted: its ranks only grow. -/
theorem rank_forward_dropAndRetract :
    let start := CallHandler.newIncoming (Example.reading 0)
      (Example.activeCall "a" "call" .requested)
      ⟨.requested, "call".toList, [], [], [], [], "a".toList, []⟩ 1
    let drop : CallHandler.Move :=
      .event (Example.reading 5) (.newDropRequest 1) (Xmpp.new Example.login)
    let retract : CallHandler.Move :=
      .event (Example.reading 6) (Example.retract "a") (Xmpp.new Example.login)
    (start.moved drop).state = .preDropCall ∧
      ((start.moved drop).moved retract).state = .dropped ∧
      (start.moved drop).state.rank ≤ ((start.moved drop).moved retract).state.rank := by
  intro start drop retract
  have forward : Along CallHandler.move CallHandler.Forward [retract] (start.moved drop) :=
    ⟨by decide, fun _ _ => trivial⟩
  exact ⟨by decide, by decide,
    ((rank_forward (start.moved drop)).2.2.2 [retract] _ forward rfl).1⟩

end JnTapi
