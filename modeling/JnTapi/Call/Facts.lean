/-
This file proves what the methods of a call handler leave as it is: the call id
and the type of the call, in the state data and in every branch; and the object,
up to commands, drawn ids and deleted events. A handler that refuses an event
changes nothing at all.
-/

import JnTapi.Frames
import JnTapi.Call.MakeCall

namespace JnTapi

namespace CallHandler

/-! ### The identity of a call -/

/-- Every branch carries the id and the type of the call. The id is a real one. -/
structure Sound (handler : CallHandler) : Prop where
  callId : handler.callId ≠ -1
  branchCallId : ∀ branch ∈ handler.branches.branches, branch.callId = handler.callId
  branchCallType : ∀ branch ∈ handler.branches.branches,
    branch.callType = handler.stateData.callType

/-- A sound handler becomes a sound handler of the same call. -/
def Keeps (before after : CallHandler) : Prop :=
  before.Sound → after.Sound ∧ after.callId = before.callId ∧
    after.stateData.callType = before.stateData.callType

theorem Keeps.refl (handler : CallHandler) : Keeps handler handler :=
  fun sound => ⟨sound, rfl, rfl⟩

theorem Keeps.trans {first second third : CallHandler} (left : Keeps first second)
    (right : Keeps second third) : Keeps first third := by
  intro sound
  obtain ⟨middle, leftId, leftType⟩ := left sound
  obtain ⟨last, rightId, rightType⟩ := right middle
  exact ⟨last, rightId.trans leftId, rightType.trans leftType⟩

theorem keeps_assignNewState (reading : Reading) (state : CallStates)
    (eventData : Option XmppEvent) (handler : CallHandler) (xmpp : Xmpp) :
    Keeps handler (handler.assignNewState reading state eventData xmpp).1 :=
  fun sound => ⟨⟨sound.callId, sound.branchCallId, sound.branchCallType⟩, rfl, rfl⟩

theorem keeps_withMake (make : MakeCallData) (handler : CallHandler) :
    Keeps handler (handler.withMake make) :=
  fun sound => ⟨⟨sound.callId, sound.branchCallId, sound.branchCallType⟩, rfl, rfl⟩

theorem keeps_droppedContextIds (contextIds : List Long) (handler : CallHandler) :
    Keeps handler { handler with droppedContextIds := contextIds } :=
  fun sound => ⟨⟨sound.callId, sound.branchCallId, sound.branchCallType⟩, rfl, rfl⟩

theorem keeps_assignCallStateData (id : TString) (ace : ActiveCall) (updateCallerId : Bool)
    (handler : CallHandler) :
    Keeps handler (handler.assignCallStateData id ace updateCallerId) :=
  fun sound => ⟨⟨sound.callId, sound.branchCallId, sound.branchCallType⟩, rfl, rfl⟩

/-- A new branch is given the id and the type of the call. -/
theorem keeps_addBranch (id : TString) (ace : ActiveCall) (updateCallerId : Bool)
    (callSetupId : Option TString) (handler : CallHandler) :
    Keeps handler (handler.addBranch id ace updateCallerId callSetupId) := by
  intro sound
  refine ⟨⟨sound.callId, ?_, ?_⟩, rfl, rfl⟩ <;> intro branch member <;>
    rcases CallBranches.mem_addBranch member with rfl | earlier
  · exact OnSipCallStateData.assignCallStateData_callId _ _ _ _ _ _ sound.callId
  · exact sound.branchCallId branch earlier
  · rfl
  · exact sound.branchCallType branch earlier

/-- The handler after the retract of one of its branches. -/
def retracted (id : TString) (handler : CallHandler) : CallHandler :=
  { handler.withStateData (handler.branches.checkDroppedCall handler.stateData id).2.1 with
    branches := (handler.branches.checkDroppedCall handler.stateData id).2.2 }

/-- The data that the retract of a branch may bring into the state data is that of another branch
of the call. -/
theorem keeps_retracted {id : TString} {handler : CallHandler}
    (present : handler.branches.hasId id = true) : Keeps handler (handler.retracted id) := by
  intro sound
  have remaining : ∀ branch ∈ (handler.branches.removeById id).branches,
      branch ∈ handler.branches.branches := fun _ => CallBranches.mem_removeById
  unfold retracted
  rcases @CallBranches.checkDroppedCall_cases handler.stateData _ _ present with
    ⟨first, member, result⟩ | ⟨-, result⟩
  · have sameId := sound.branchCallId first (remaining first member)
    have sameType := sound.branchCallType first (remaining first member)
    rw [result]
    refine ⟨⟨?_, fun branch inside => ?_, fun branch inside => ?_⟩, sameId, sameType⟩
    · show first.callId ≠ -1
      rw [sameId]
      exact sound.callId
    · exact (sound.branchCallId branch (remaining branch inside)).trans sameId.symm
    · exact (sound.branchCallType branch (remaining branch inside)).trans sameType.symm
  · rw [result]
    refine ⟨⟨sound.callId, fun branch inside => ?_, fun branch inside => ?_⟩, rfl, rfl⟩
    · exact sound.branchCallId branch (remaining branch inside)
    · exact sound.branchCallType branch (remaining branch inside)

theorem keeps_dropBranches (branches : List OnSipCallStateData) (handler : CallHandler)
    (xmpp : Xmpp) : Keeps handler (dropBranches branches handler xmpp).1 := by
  induction branches generalizing handler xmpp with
  | nil => exact Keeps.refl handler
  | cons branch rest inductionHypothesis =>
    exact (keeps_droppedContextIds _ handler).trans (inductionHypothesis _ _)

/-! ### What all data of a call have -/

/-- The property holds of the state data and of every branch. -/
structure Each (holds : OnSipCallStateData → Prop) (handler : CallHandler) : Prop where
  current : holds handler.stateData
  branch : ∀ branch ∈ handler.branches.branches, holds branch

section each

variable {holds : OnSipCallStateData → Prop} {handler : CallHandler}

theorem Each.addBranch (each : handler.Each holds) (id : TString) (ace : ActiveCall)
    (updateCallerId : Bool) (callSetupId : Option TString)
    (new : ∀ data : OnSipCallStateData, holds (data.assignCallStateData id ace handler.callId
      updateCallerId callSetupId)) :
    (handler.addBranch id ace updateCallerId callSetupId).Each holds := by
  refine ⟨each.current, fun branch member => ?_⟩
  rcases CallBranches.mem_addBranch member with rfl | earlier
  · exact new _
  · exact each.branch branch earlier

theorem Each.retracted (each : handler.Each holds) {id : TString}
    (present : handler.branches.hasId id = true) {last : Bool} {callData : OnSipCallStateData}
    {branches : CallBranches}
    (outcome : handler.branches.checkDroppedCall handler.stateData id =
      (last, callData, branches)) :
    Each holds { handler.withStateData callData with branches := branches } := by
  have remaining : ∀ branch ∈ (handler.branches.removeById id).branches, holds branch :=
    fun branch member => each.branch branch (CallBranches.mem_removeById member)
  rcases @CallBranches.checkDroppedCall_cases handler.stateData _ _ present with
    ⟨first, member, result⟩ | ⟨-, result⟩
  · rw [result] at outcome
    cases outcome
    exact ⟨remaining callData member, remaining⟩
  · rw [result] at outcome
    cases outcome
    exact ⟨each.current, remaining⟩

end each

/-- The loop over the branches changes the remembered context ids only. -/
theorem dropBranches_handler (branches : List OnSipCallStateData) (handler : CallHandler)
    (xmpp : Xmpp) : ∃ contextIds,
      (dropBranches branches handler xmpp).1 = { handler with droppedContextIds := contextIds } := by
  induction branches generalizing handler xmpp with
  | nil => exact ⟨handler.droppedContextIds, rfl⟩
  | cons branch rest inductionHypothesis => exact inductionHypothesis _ _

/-- The end of `IsYourEvent` changes the remembered context ids, and it may give the call up. -/
theorem dropRequestOrReply_handler (reading : Reading) (handler : CallHandler)
    (event : XmppEvent) (xmpp : Xmpp) : ∃ contextIds,
      (handler.dropRequestOrReply reading event xmpp).2.1 =
        { handler with droppedContextIds := contextIds } ∨
      (handler.dropRequestOrReply reading event xmpp).2.1 = (assignNewState reading .preDropCall
        none { handler with droppedContextIds := contextIds } xmpp).1 := by
  unfold dropRequestOrReply checkDropRequestEvent checkIqReplyDropRequest
  cases event.data with
  | dropRequest callId =>
    by_cases same : callId = handler.callId
    · obtain ⟨contextIds, dropped⟩ := dropBranches_handler handler.branches.branches handler xmpp
      refine ⟨contextIds, Or.inr ?_⟩
      simp only [same, ne_eq, not_true_eq_false, if_false, ← dropped]
      rfl
    · simp only [ne_eq, same, not_false_eq_true, if_true]
      exact ⟨handler.droppedContextIds, Or.inl rfl⟩
  | iqResult =>
    by_cases member : event.context ∈ handler.droppedContextIds
    · simp only [member, if_true]
      exact ⟨_, Or.inl rfl⟩
    · simp only [member, if_false]
      exact ⟨handler.droppedContextIds, Or.inl rfl⟩
  | _ => exact ⟨handler.droppedContextIds, Or.inl rfl⟩

/-! ### The object -/

theorem quiet_assignNewState (reading : Reading) (state : CallStates)
    (eventData : Option XmppEvent) (handler : CallHandler) (xmpp : Xmpp) :
    xmpp.Quiet (handler.assignNewState reading state eventData xmpp).2 :=
  Xmpp.quiet_release _ xmpp

theorem quiet_dropCall (callData : OnSipCallStateData) (xmpp : Xmpp) :
    xmpp.Quiet (dropCall callData xmpp).2 :=
  xmpp.quiet_getUniqueId.trans (Xmpp.quiet_emit _ rfl)

theorem quiet_dropBranches (branches : List OnSipCallStateData) (handler : CallHandler)
    (xmpp : Xmpp) : xmpp.Quiet (dropBranches branches handler xmpp).2 := by
  induction branches generalizing handler xmpp with
  | nil => exact Xmpp.Quiet.refl xmpp
  | cons branch rest inductionHypothesis =>
    exact (quiet_dropCall branch xmpp).trans (inductionHypothesis _ _)

/-! ### Events -/

/-- A method's outcome continues the call and notifies nothing. -/
def Continues (handler : CallHandler) (xmpp : Xmpp) (outcome : Bool × CallHandler × Xmpp) : Prop :=
  Keeps handler outcome.2.1 ∧ xmpp.Quiet outcome.2.2

theorem Continues.refl (accepted : Bool) (handler : CallHandler) (xmpp : Xmpp) :
    Continues handler xmpp (accepted, handler, xmpp) :=
  ⟨Keeps.refl handler, Xmpp.Quiet.refl xmpp⟩

theorem Continues.assignNewState {handler next : CallHandler} {xmpp : Xmpp}
    (keeps : Keeps handler next) (accepted : Bool) (reading : Reading) (state : CallStates)
    (eventData : Option XmppEvent) :
    Continues handler xmpp (accepted, next.assignNewState reading state eventData xmpp) :=
  ⟨keeps.trans (keeps_assignNewState reading state eventData next xmpp),
    quiet_assignNewState reading state eventData next xmpp⟩

theorem Continues.deleteEvent {handler next : CallHandler} {xmpp : Xmpp}
    (keeps : Keeps handler next) (accepted : Bool) (event : XmppEvent) :
    Continues handler xmpp (accepted, next, xmpp.deleteEvent event) :=
  ⟨keeps, Xmpp.quiet_deleteEvent event xmpp⟩

/-- The request to drop the call changes the state once the branches have been dropped. -/
theorem continues_dropRequestOrReply (reading : Reading) (handler : CallHandler)
    (event : XmppEvent) (xmpp : Xmpp) :
    Continues handler xmpp (handler.dropRequestOrReply reading event xmpp) := by
  unfold dropRequestOrReply checkDropRequestEvent checkIqReplyDropRequest
  cases event.data with
  | dropRequest callId =>
    by_cases same : callId = handler.callId
    · simp only [same, ne_eq, not_true_eq_false, if_false]
      refine ⟨(keeps_dropBranches _ handler xmpp).trans (keeps_assignNewState _ _ _ _ xmpp), ?_⟩
      exact ((quiet_dropBranches _ handler xmpp).trans (quiet_assignNewState _ _ _ _ _)).trans
        (Xmpp.quiet_deleteEvent _ _)
    · simp only [ne_eq, same, not_false_eq_true, if_true]
      exact Continues.refl _ handler xmpp
  | iqResult =>
    by_cases member : event.context ∈ handler.droppedContextIds
    · simp only [member, if_true]
      exact Continues.deleteEvent (keeps_droppedContextIds _ handler) true event
    · simp only [member, if_false]
      exact Continues.refl _ handler xmpp
  | _ => exact Continues.refl _ handler xmpp

theorem continues_confirmed (reading : Reading) (handler : CallHandler) (event : XmppEvent)
    (ace : ActiveCall) (xmpp : Xmpp) :
    Continues handler xmpp (true,
      ((handler.addBranch event.id ace true none).assignNewState reading .connected
        (some event) xmpp).1.assignCallStateData event.id ace true,
      ((handler.addBranch event.id ace true none).assignNewState reading .connected
        (some event) xmpp).2) :=
  ⟨((keeps_addBranch _ _ _ _ handler).trans
      (keeps_assignNewState reading .connected (some event) _ xmpp)).trans
        (keeps_assignCallStateData _ _ _ _),
    quiet_assignNewState reading .connected (some event) handler xmpp⟩

theorem continues_outgoing (reading : Reading) (handler : CallHandler) (event : XmppEvent)
    (xmpp : Xmpp) :
    Continues handler xmpp (handler.outgoingIsYourEvent reading event xmpp) := by
  unfold outgoingIsYourEvent
  split
  · split_ifs
    · exact Continues.refl _ handler xmpp
    · exact continues_confirmed reading handler event _ xmpp
    · exact Continues.deleteEvent (keeps_addBranch _ _ _ _ handler) true event
  · split_ifs
    · exact Continues.refl _ handler xmpp
    · exact Continues.assignNewState (Keeps.refl handler) true reading .dropped (some event)
  · exact continues_dropRequestOrReply reading handler event xmpp

/-- The two outcomes of the retract of a branch, for the kinds that count their branches. -/
theorem continues_retracted {reading : Reading} {handler : CallHandler} {event : XmppEvent}
    {xmpp : Xmpp} (present : handler.branches.hasId event.id = true) :
    Continues handler xmpp
      (match handler.branches.checkDroppedCall handler.stateData event.id with
      | (true, callData, branches) =>
        (true, assignNewState reading .dropped (some event)
          { handler.withStateData callData with branches := branches } xmpp)
      | (false, callData, branches) =>
        (true, { handler.withStateData callData with branches := branches },
          xmpp.deleteEvent event)) := by
  have keeps := keeps_retracted present
  unfold retracted at keeps
  rcases outcome : handler.branches.checkDroppedCall handler.stateData event.id with
    ⟨last, callData, branches⟩
  rw [outcome] at keeps
  cases last with
  | true => exact Continues.assignNewState keeps true reading .dropped (some event)
  | false => exact Continues.deleteEvent keeps true event

theorem continues_incoming (reading : Reading) (handler : CallHandler) (event : XmppEvent)
    (xmpp : Xmpp) :
    Continues handler xmpp (handler.incomingIsYourEvent reading event xmpp) := by
  unfold incomingIsYourEvent
  split
  · split_ifs
    · exact Continues.refl _ handler xmpp
    · exact continues_confirmed reading handler event _ xmpp
    · exact Continues.deleteEvent (keeps_addBranch _ _ _ _ handler) true event
  · split_ifs with absent
    · exact Continues.refl _ handler xmpp
    · rw [Bool.not_eq_true, Bool.not_eq_false'] at absent
      exact continues_retracted absent
  · exact continues_dropRequestOrReply reading handler event xmpp

theorem continues_makeCallActiveCall (make : MakeCallData) (reading : Reading)
    (handler : CallHandler) (event : XmppEvent) (ace : ActiveCall) (xmpp : Xmpp) :
    Continues handler xmpp (handler.makeCallActiveCall make reading event ace xmpp) := by
  unfold makeCallActiveCall
  have quiet := fun state => quiet_assignNewState reading state (some event) handler xmpp
  have keeps := fun state => keeps_assignNewState reading state (some event) handler xmpp
  split_ifs
  · exact ⟨((keeps .makeCallRequested).trans (keeps_withMake _ _)).trans
      (keeps_assignCallStateData _ _ _ _), quiet .makeCallRequested⟩
  · exact Continues.deleteEvent (Keeps.refl handler) true event
  · exact ⟨(keeps .makeCallRequestedAnswered).trans (keeps_assignCallStateData _ _ _ _),
      quiet .makeCallRequestedAnswered⟩
  · exact ⟨(keeps .dropped).trans (keeps_assignCallStateData _ _ _ _), quiet .dropped⟩
  · exact ⟨(((keeps .makeCallOutgoingCreated).trans (keeps_addBranch _ _ _ _ _)).trans
      (keeps_withMake _ _)).trans (keeps_assignCallStateData _ _ _ _),
      quiet .makeCallOutgoingCreated⟩
  · exact ⟨((keeps .dropped).trans (keeps_withMake _ _)).trans
      (keeps_assignCallStateData _ _ _ _), quiet .dropped⟩
  · exact ⟨((keeps .connected).trans (keeps_assignCallStateData _ _ _ _)).trans
      (keeps_addBranch _ _ _ _ _), quiet .connected⟩
  · exact ⟨keeps .dropped, quiet .dropped⟩
  · exact Continues.deleteEvent (Keeps.refl handler) true event

theorem continues_makeCall (make : MakeCallData) (reading : Reading) (handler : CallHandler)
    (event : XmppEvent) (xmpp : Xmpp) :
    Continues handler xmpp (handler.makeCallIsYourEvent make reading event xmpp) := by
  have drops : Continues handler xmpp
      (true, handler.assignNewState reading .dropped (some event) xmpp) :=
    Continues.assignNewState (Keeps.refl handler) true reading .dropped (some event)
  have deletes : Continues handler xmpp (true, handler, xmpp.deleteEvent event) :=
    Continues.deleteEvent (Keeps.refl handler) true event
  unfold makeCallIsYourEvent
  split
  · rename_i ace _
    split_ifs
    · exact Continues.refl _ handler xmpp
    · exact drops
    · have tail := continues_makeCallActiveCall make reading
        (handler.addBranch event.id ace false handler.callSetupIdArgument) event ace xmpp
      exact ⟨(keeps_addBranch _ _ _ _ handler).trans tail.1, tail.2⟩
  · split_ifs with present
    · exact continues_retracted present
    · exact drops
    · exact deletes
  · split_ifs
    · exact drops
    · exact deletes
    · exact Continues.refl _ handler xmpp
  · exact continues_dropRequestOrReply reading handler event xmpp

/-- Whatever a handler makes of an event, it stays the handler of its call and notifies
nothing itself. -/
theorem continues_isYourEvent (reading : Reading) (handler : CallHandler) (event : XmppEvent)
    (xmpp : Xmpp) : Continues handler xmpp (handler.isYourEvent reading event xmpp) := by
  unfold isYourEvent
  cases handler.kind with
  | outgoing => exact continues_outgoing reading handler event xmpp
  | incoming => exact continues_incoming reading handler event xmpp
  | makeCall make => exact continues_makeCall make reading handler event xmpp

/-! ### Refused events -/

/-- An outcome that refuses the event is the handler and the object as they were. -/
def RefusalUnchanged (handler : CallHandler) (xmpp : Xmpp)
    (outcome : Bool × CallHandler × Xmpp) : Prop :=
  outcome.1 = false → outcome = (false, handler, xmpp)

theorem refusalUnchanged_accepted (handler : CallHandler) (xmpp : Xmpp)
    (next : CallHandler × Xmpp) : RefusalUnchanged handler xmpp (true, next) :=
  fun refused => absurd refused (Bool.true_eq_false_eq_False)

theorem refusalUnchanged_refused (handler : CallHandler) (xmpp : Xmpp) :
    RefusalUnchanged handler xmpp (false, handler, xmpp) :=
  fun _ => rfl

theorem refusalUnchanged_dropRequestOrReply (reading : Reading) (handler : CallHandler)
    (event : XmppEvent) (xmpp : Xmpp) :
    RefusalUnchanged handler xmpp (handler.dropRequestOrReply reading event xmpp) := by
  unfold dropRequestOrReply checkDropRequestEvent checkIqReplyDropRequest
  cases event.data with
  | dropRequest callId =>
    by_cases same : callId = handler.callId
    · simp only [same, ne_eq, not_true_eq_false, if_false]
      exact refusalUnchanged_accepted handler xmpp _
    · simp only [ne_eq, same, not_false_eq_true, if_true]
      exact refusalUnchanged_refused handler xmpp
  | iqResult =>
    by_cases member : event.context ∈ handler.droppedContextIds
    · simp only [member, if_true]
      exact refusalUnchanged_accepted handler xmpp _
    · simp only [member, if_false]
      exact refusalUnchanged_refused handler xmpp
  | _ => exact refusalUnchanged_refused handler xmpp

theorem refusalUnchanged_retracted (reading : Reading) (handler : CallHandler)
    (event : XmppEvent) (xmpp : Xmpp) :
    RefusalUnchanged handler xmpp
      (match handler.branches.checkDroppedCall handler.stateData event.id with
      | (true, callData, branches) =>
        (true, assignNewState reading .dropped (some event)
          { handler.withStateData callData with branches := branches } xmpp)
      | (false, callData, branches) =>
        (true, { handler.withStateData callData with branches := branches },
          xmpp.deleteEvent event)) := by
  split <;> exact refusalUnchanged_accepted handler xmpp _

/-- Once an active-call event is known to belong to a call that the program makes, it is
accepted. -/
theorem makeCallActiveCall_accepts (make : MakeCallData) (reading : Reading)
    (handler : CallHandler) (event : XmppEvent) (ace : ActiveCall) (xmpp : Xmpp) :
    (handler.makeCallActiveCall make reading event ace xmpp).1 = true := by
  unfold makeCallActiveCall
  split_ifs <;> rfl

theorem isYourEvent_refused {reading : Reading} {handler : CallHandler} {event : XmppEvent}
    {xmpp : Xmpp} : RefusalUnchanged handler xmpp (handler.isYourEvent reading event xmpp) := by
  have refused := refusalUnchanged_refused handler xmpp
  have accepted := refusalUnchanged_accepted handler xmpp
  have request := refusalUnchanged_dropRequestOrReply reading handler event xmpp
  have branch := refusalUnchanged_retracted reading handler event xmpp
  unfold isYourEvent
  cases handler.kind with
  | outgoing =>
    simp only [outgoingIsYourEvent]
    split
    · split_ifs
      · exact refused
      · exact accepted _
      · exact accepted _
    · split_ifs
      · exact refused
      · exact accepted _
    · exact request
  | incoming =>
    simp only [incomingIsYourEvent]
    split
    · split_ifs
      · exact refused
      · exact accepted _
      · exact accepted _
    · split_ifs
      · exact refused
      · exact branch
    · exact request
  | makeCall make =>
    simp only [makeCallIsYourEvent]
    split
    · rename_i ace _
      split_ifs
      · exact refused
      · exact accepted _
      · intro impossible
        rw [makeCallActiveCall_accepts] at impossible
        cases impossible
    · split_ifs
      · exact branch
      · exact accepted _
      · exact accepted _
    · split_ifs
      · exact accepted _
      · exact accepted _
      · exact refused
    · exact request

/-! ### The existence check -/

/-- The handler after it has reached a time limit. -/
def timedOut (reading : Reading) (handler : CallHandler) : CallHandler :=
  { handler with currentState := handler.currentState.assignNewState reading .dropped none }

/-- What a list of time limits does: the handler is as it was and is reported to exist unless it
is dropped, or it has reached a limit, is dropped now and is still reported to exist. -/
theorem stillExists_cases (reading : Reading) {limits : List (CallStates × Int)}
    (limited : ∀ limit ∈ limits, limit.1 ≠ .dropped) (handler : CallHandler) (xmpp : Xmpp) :
    stillExists reading limits handler xmpp = (decide (handler.state ≠ .dropped), handler, xmpp) ∨
    (handler.state ≠ .dropped ∧ stillExists reading limits handler xmpp =
      (true, handler.timedOut reading, xmpp.release handler.currentState.eventData)) := by
  induction limits with
  | nil => exact Or.inl rfl
  | cons limit rest inductionHypothesis =>
    have tail := inductionHypothesis fun other member => limited other (List.mem_cons_of_mem _ member)
    rw [stillExists, checkStateTimeout]
    by_cases reached : handler.state = limit.1 ∧
        limit.2 < handler.currentState.msecsSinceLastStateChange reading
    · rw [if_pos reached]
      by_cases disabled : reading.disableTimeout ≠ 0
      · rw [if_pos disabled]
        exact tail
      · rw [if_neg disabled]
        refine Or.inr ⟨?_, rfl⟩
        rw [reached.1]
        exact limited limit List.mem_cons_self
    · rw [if_neg reached]
      exact tail

/-- What the existence check does to a call handler. -/
theorem isStillExist_cases (reading : Reading) (handler : CallHandler) (xmpp : Xmpp) :
    handler.isStillExist reading xmpp = (decide (handler.state ≠ .dropped), handler, xmpp) ∨
    (handler.state ≠ .dropped ∧ handler.isStillExist reading xmpp =
      (true, handler.timedOut reading, xmpp.release handler.currentState.eventData)) := by
  unfold isStillExist
  cases handler.kind with
  | outgoing => exact stillExists_cases reading (by decide) handler xmpp
  | incoming => exact stillExists_cases reading (by decide) handler xmpp
  | makeCall make => exact stillExists_cases reading (by decide) handler xmpp

/-- A dropped handler is reported not to exist. -/
theorem isStillExist_dropped {reading : Reading} {handler : CallHandler} {xmpp : Xmpp}
    (dropped : handler.state = .dropped) :
    handler.isStillExist reading xmpp = (false, handler, xmpp) := by
  rcases isStillExist_cases reading handler xmpp with same | ⟨alive, -⟩
  · rw [same, dropped]
    rfl
  · exact absurd dropped alive

/-! ### New handlers -/

theorem sound_newOutgoing (reading : Reading) (event : XmppEvent) (ace : ActiveCall)
    {callId : Long} (given : callId ≠ -1) :
    (newOutgoing reading event ace callId).Sound ∧
      (newOutgoing reading event ace callId).callId = callId := by
  have same : (newOutgoing reading event ace callId).callId = callId :=
    OnSipCallStateData.assignCallStateData_callId _ _ _ _ _ _ given
  have real : (newOutgoing reading event ace callId).callId ≠ -1 := by
    rw [same]
    exact given
  refine ⟨⟨real, fun branch member => ?_, fun branch member => ?_⟩, same⟩ <;>
    rcases CallBranches.mem_addBranch member with rfl | none
  · rfl
  · exact absurd none List.not_mem_nil
  · rfl
  · exact absurd none List.not_mem_nil

theorem sound_newIncoming (reading : Reading) (event : XmppEvent) (ace : ActiveCall)
    {callId : Long} (given : callId ≠ -1) :
    (newIncoming reading event ace callId).Sound ∧
      (newIncoming reading event ace callId).callId = callId := by
  have same : (newIncoming reading event ace callId).callId = callId :=
    OnSipCallStateData.assignCallStateData_callId _ _ _ _ _ _ given
  have real : (newIncoming reading event ace callId).callId ≠ -1 := by
    rw [same]
    exact given
  refine ⟨⟨real, fun branch member => ?_, fun branch member => ?_⟩, same⟩ <;>
    rcases CallBranches.mem_addBranch member with rfl | none
  · exact OnSipCallStateData.assignCallStateData_callId _ _ _ _ _ _ real
  · exact absurd none List.not_mem_nil
  · rfl
  · exact absurd none List.not_mem_nil

theorem sound_newMakeCall (reading : Reading) (toDial : TString) {callId : Long}
    (given : callId ≠ -1) : (newMakeCall reading toDial callId).Sound :=
  ⟨given, fun _ member => absurd member List.not_mem_nil,
    fun _ member => absurd member List.not_mem_nil⟩

/-- An unknown event creates nothing, or the handler of a call whose id it draws. -/
theorem unknownEvent_cases (reading : Reading) (event : XmppEvent) (xmpp : Xmpp) :
    unknownEvent reading event xmpp = (none, xmpp) ∨
    ∃ handler, unknownEvent reading event xmpp = (some handler, xmpp.getUniqueId.2) ∧
      (xmpp.getUniqueId.1 ≠ -1 → handler.Sound ∧ handler.callId = xmpp.getUniqueId.1) := by
  unfold unknownEvent
  split
  · rename_i ace _
    split_ifs
    · exact Or.inr ⟨_, rfl, sound_newOutgoing reading event ace⟩
    · exact Or.inr ⟨_, rfl, sound_newIncoming reading event ace⟩
    · exact Or.inl rfl
  · exact Or.inl rfl

/-- `PreExecute` dials the number for the same call. -/
theorem continues_preExecute (reading : Reading) (handler : CallHandler) (xmpp : Xmpp) :
    Continues handler xmpp (handler.preExecute reading xmpp) := by
  unfold preExecute
  cases handler.kind with
  | makeCall make =>
    refine ⟨?_, ?_⟩
    · exact fun sound => ⟨⟨sound.callId, sound.branchCallId, sound.branchCallType⟩, rfl, rfl⟩
    · exact (xmpp.quiet_getUniqueId.trans (Xmpp.quiet_emit _ rfl)).trans
        (Xmpp.quiet_release handler.currentState.eventData _)
  | _ => exact Continues.refl false handler xmpp

/-- The handler is one that `MakeCallAsync` has just created. -/
def IsNewMakeCall (handler : CallHandler) : Prop :=
  ∃ reading toDial callId, handler = newMakeCall reading toDial callId

/-- `PreExecute` of a new handler succeeds and leaves it waiting for the first event. -/
theorem preExecute_newMakeCall {handler : CallHandler} (new : handler.IsNewMakeCall)
    (reading : Reading) (xmpp : Xmpp) :
    ∃ next nextXmpp, handler.preExecute reading xmpp = (true, next, nextXmpp) ∧
      next.state = .makeCallSet ∧ next.hasPreExecute = true := by
  obtain ⟨created, toDial, callId, rfl⟩ := new
  exact ⟨_, _, rfl, rfl, rfl⟩

theorem keeps_timedOut (reading : Reading) (handler : CallHandler) :
    Keeps handler (handler.timedOut reading) :=
  fun sound => ⟨⟨sound.callId, sound.branchCallId, sound.branchCallType⟩, rfl, rfl⟩

/-- The rule of the existence check for call handlers: a handler stays as it is, reaches a time
limit, or was dropped before and is removed. -/
theorem checkStateHandlersExist_rule (invariant : List CallHandler → List CallHandler → Xmpp → Prop)
    (stays : ∀ done handler rest xmpp, invariant done (handler :: rest) xmpp →
      handler.state ≠ .dropped → invariant (done ++ [handler]) rest xmpp)
    (lapses : ∀ done handler rest xmpp reading, invariant done (handler :: rest) xmpp →
      handler.state ≠ .dropped → handler.isStillExist reading xmpp =
        (true, handler.timedOut reading, xmpp.release handler.currentState.eventData) →
      invariant (done ++ [handler.timedOut reading]) rest
        (xmpp.release handler.currentState.eventData))
    (removed : ∀ done handler rest xmpp, invariant done (handler :: rest) xmpp →
      handler.state = .dropped → invariant done rest
        ((handler.onStateChange .removedHandler xmpp).release handler.currentState.eventData))
    (check : Nat → Reading) (handlers : List CallHandler) (xmpp : Xmpp)
    (start : invariant [] handlers xmpp) :
    invariant (StateMachine.checkStateHandlersExist callVirtuals check handlers xmpp).1 []
      (StateMachine.checkStateHandlersExist callVirtuals check handlers xmpp).2 := by
  refine StateMachine.checkStateHandlersExist_rule callVirtuals invariant ?_ ?_ check [] handlers
    xmpp start
  · intro done handler rest object reading next nextObject before outcome
    have exists_ : handler.isStillExist reading object = (true, next, nextObject) := outcome
    rcases isStillExist_cases reading handler object with same | ⟨alive, lapsed⟩
    · rw [same] at exists_
      simp only [Prod.mk.injEq, decide_eq_true_eq] at exists_
      obtain ⟨alive, rfl, rfl⟩ := exists_
      exact stays done handler rest object before alive
    · have outcome := lapsed
      rw [exists_] at outcome
      simp only [Prod.mk.injEq, true_and] at outcome
      obtain ⟨rfl, rfl⟩ := outcome
      exact lapses done handler rest object reading before alive lapsed
  · intro done handler rest object reading next nextObject before outcome
    have gone : handler.isStillExist reading object = (false, next, nextObject) := outcome
    rcases isStillExist_cases reading handler object with same | ⟨-, lapsed⟩
    · rw [same] at gone
      simp only [Prod.mk.injEq, decide_eq_false_iff_not, not_not] at gone
      obtain ⟨dropped, rfl, rfl⟩ := gone
      exact removed done handler rest object before dropped
    · rw [lapsed] at gone
      cases gone

/-- The existence check draws no id. -/
theorem ids_checkStateHandlersExist (check : Nat → Reading) (handlers : List CallHandler)
    (xmpp : Xmpp) :
    (StateMachine.checkStateHandlersExist callVirtuals check handlers xmpp).2.ids = xmpp.ids := by
  refine checkStateHandlersExist_rule (fun _ _ object => object.ids = xmpp.ids)
    (fun _ _ _ _ before _ => before) ?_ ?_ check handlers xmpp rfl
  · intro done handler rest object reading before alive lapsed
    exact (Xmpp.ids_release _ object).trans before
  · intro done handler rest object before dropped
    exact (Xmpp.ids_release _ (handler.onStateChange .removedHandler object)).trans before

/-- No call handler reports a change when it is polled. -/
theorem pollStateHandlers_eq (readings : Readings) (handlers : List CallHandler) (xmpp : Xmpp) :
    StateMachine.pollStateHandlers callVirtuals readings handlers xmpp =
      StateMachine.checkStateHandlersExist callVirtuals readings.check handlers xmpp := by
  have idle : StateMachine.pollUntilChange callVirtuals readings.poll handlers xmpp =
      (handlers, xmpp) := StateMachine.pollUntilChange_idle (fun _ _ _ => rfl) _ _ _
  rw [StateMachine.pollStateHandlers, idle]

theorem quiet_removeStateHandlers (handlers : List CallHandler) (xmpp : Xmpp) :
    xmpp.Quiet (StateMachine.removeStateHandlers callVirtuals handlers xmpp).2 := by
  show xmpp.Quiet (handlers.foldl (fun xmpp handler => handler.deleteHandler xmpp) xmpp)
  induction handlers generalizing xmpp with
  | nil => exact Xmpp.Quiet.refl xmpp
  | cons handler rest inductionHypothesis =>
    exact (Xmpp.quiet_release handler.currentState.eventData xmpp).trans (inductionHypothesis _)

/-- The handling of a request of `MakeCallAsync` always adds its handler, executed and checked, and
notifies the addition. -/
theorem handleRequest_new (readings : StateMachineBase.RequestReadings) {request : CallHandler}
    (new : request.IsNewMakeCall) (handlers : List CallHandler) (xmpp : Xmpp) :
    ∃ executed object handler later, request.preExecute readings.preExecute xmpp =
        (true, executed, object) ∧
      executed.isStillExist readings.check object = (true, handler, later) ∧
      request.Keeps handler ∧ xmpp.Quiet later ∧
      StateMachineBase.handleRequest callVirtuals readings request handlers xmpp =
        (handlers ++ [handler], handler.onStateChange .addedHandler later) := by
  obtain ⟨executed, object, execution, set, hasPreExecute⟩ :=
    preExecute_newMakeCall new readings.preExecute xmpp
  have continues := continues_preExecute readings.preExecute request xmpp
  rw [execution] at continues
  have requestExecutes : callVirtuals.hasPreExecute request = true := by
    obtain ⟨_, _, _, rfl⟩ := new
    rfl
  have executes : callVirtuals.preExecute readings.preExecute request xmpp =
    (true, executed, object) := execution
  rcases isStillExist_cases readings.check executed object with same | ⟨-, lapsed⟩
  · have alive : executed.isStillExist readings.check object = (true, executed, object) := by
      rw [set] at same
      exact same
    have exists_ : callVirtuals.isStillExist readings.check executed object =
      (true, executed, object) := alive
    have notify : callVirtuals.hasPreExecute executed = true := hasPreExecute
    refine ⟨executed, object, executed, object, execution, alive, continues.1, continues.2, ?_⟩
    simp only [StateMachineBase.handleRequest, requestExecutes, if_true, executes, exists_,
      StateMachine.addStateHandler, notify]
    rfl
  · have exists_ : callVirtuals.isStillExist readings.check executed object =
      (true, executed.timedOut readings.check,
        object.release executed.currentState.eventData) := lapsed
    have notify : callVirtuals.hasPreExecute (executed.timedOut readings.check) = true :=
      hasPreExecute
    refine ⟨executed, object, _, _, execution, lapsed,
      continues.1.trans (keeps_timedOut readings.check executed),
      continues.2.trans (Xmpp.quiet_release _ object), ?_⟩
    simp only [StateMachineBase.handleRequest, requestExecutes, if_true, executes, exists_,
      StateMachine.addStateHandler, notify]
    rfl

/-- What the handling of a request does: nothing is added and nothing notified, or a handler is
added and its addition notified, unless its kind has no `PreExecute`. -/
theorem handleRequest_cases (readings : StateMachineBase.RequestReadings) (request : CallHandler)
    (handlers : List CallHandler) (xmpp : Xmpp) :
    ∃ later, xmpp.Quiet later ∧
      ((StateMachineBase.handleRequest callVirtuals readings request handlers xmpp).2 = later ∨
        ∃ handler, (StateMachineBase.handleRequest callVirtuals readings request handlers xmpp).2 =
          onStateChange handler .addedHandler later) := by
  rcases executed : (if callVirtuals.hasPreExecute request then
      callVirtuals.preExecute readings.preExecute request xmpp else (true, request, xmpp)) with
    ⟨success, handler, later⟩
  have quiet : xmpp.Quiet later := by
    split_ifs at executed
    · have continues := continues_preExecute readings.preExecute request xmpp
      have outcome : request.preExecute readings.preExecute xmpp = (success, handler, later) :=
        executed
      rw [outcome] at continues
      exact continues.2
    · cases executed
      exact Xmpp.Quiet.refl xmpp
  simp only [StateMachineBase.handleRequest, executed]
  cases success with
  | false =>
    exact ⟨_, quiet.trans (Xmpp.quiet_release handler.currentState.eventData later), Or.inl rfl⟩
  | true =>
    rcases checked : callVirtuals.isStillExist readings.check handler later with
      ⟨exists_, next, nextXmpp⟩
    have nextQuiet : later.Quiet nextXmpp := by
      have outcome : handler.isStillExist readings.check later = (exists_, next, nextXmpp) :=
        checked
      rcases isStillExist_cases readings.check handler later with same | ⟨-, lapsed⟩
      · rw [same] at outcome
        cases outcome
        exact Xmpp.Quiet.refl later
      · rw [lapsed] at outcome
        cases outcome
        exact Xmpp.quiet_release _ later
    simp only [checked]
    cases exists_ with
    | false =>
      exact ⟨_, (quiet.trans nextQuiet).trans
        (Xmpp.quiet_release next.currentState.eventData nextXmpp), Or.inl rfl⟩
    | true =>
      refine ⟨nextXmpp, quiet.trans nextQuiet, ?_⟩
      simp only [StateMachine.addStateHandler]
      split_ifs
      · exact Or.inr ⟨next, rfl⟩
      · exact Or.inl rfl

/-! ### The event loop -/

theorem refusesUnchanged_callVirtuals : StateMachine.RefusesUnchanged callVirtuals :=
  fun _ _ _ _ refused => isYourEvent_refused refused

/-- What an event does to the machine before the existence check: the first handler that accepts
it is replaced, or all refuse it and it creates a handler, or nobody knows it. -/
theorem handleEvent_cases (reading : Reading) (event : XmppEvent) (deleteEventData : Bool)
    (handlers : List CallHandler) (xmpp : Xmpp) :
    (∃ before handler after next nextXmpp, handlers = before ++ handler :: after ∧
      (∀ earlier ∈ before, (earlier.isYourEvent reading event xmpp).1 = false) ∧
      handler.isYourEvent reading event xmpp = (true, next, nextXmpp) ∧
      StateMachine.handleEvent callVirtuals reading event deleteEventData handlers xmpp =
        (true, before ++ next :: after, next.onStateChange .isYourEventHandled nextXmpp)) ∨
    ((∀ handler ∈ handlers, (handler.isYourEvent reading event xmpp).1 = false) ∧
      ∃ handler, unknownEvent reading event xmpp = (some handler, xmpp.getUniqueId.2) ∧
        (xmpp.getUniqueId.1 ≠ -1 → handler.Sound ∧ handler.callId = xmpp.getUniqueId.1) ∧
        StateMachine.handleEvent callVirtuals reading event deleteEventData handlers xmpp =
          (true, handlers ++ [handler],
            handler.onStateChange .newHandlerCreated xmpp.getUniqueId.2)) ∨
    ((∀ handler ∈ handlers, (handler.isYourEvent reading event xmpp).1 = false) ∧
      unknownEvent reading event xmpp = (none, xmpp) ∧
      StateMachine.handleEvent callVirtuals reading event deleteEventData handlers xmpp =
        (false, handlers, if deleteEventData then xmpp.deleteEvent event else xmpp)) := by
  rcases StateMachine.offer_cases refusesUnchanged_callVirtuals reading event handlers xmpp with
    ⟨refusing, result⟩ | ⟨before, handler, after, next, nextXmpp, rfl, refusing, accepts, result⟩
  · right
    rcases unknownEvent_cases reading event xmpp with unknown | ⟨handler, created, spec⟩
    · have none : callVirtuals.unknownEvent reading event xmpp = (none, xmpp) := unknown
      refine Or.inr ⟨refusing, unknown, ?_⟩
      simp only [StateMachine.handleEvent, result, none]
      rfl
    · have new : callVirtuals.unknownEvent reading event xmpp =
        (some handler, xmpp.getUniqueId.2) := created
      refine Or.inl ⟨refusing, handler, created, spec, ?_⟩
      simp only [StateMachine.handleEvent, result, new]
      rfl
  · left
    refine ⟨before, handler, after, next, nextXmpp, rfl, refusing, accepts, ?_⟩
    simp only [StateMachine.handleEvent, result]
    rfl

end CallHandler

/-! ### The machine as a whole -/

open CallHandler in
/-- What holds whatever the handlers do silently and whatever they notify holds of every call of
the call machine. -/
theorem callVirtuals_changes {changes : Xmpp → Xmpp → Prop}
    (trans : ∀ {first second third}, changes first second → changes second third →
      changes first third)
    (quiet : ∀ {before after : Xmpp}, before.Quiet after → changes before after)
    (notified : ∀ notification xmpp, changes xmpp (xmpp.callStateChange notification)) :
    callVirtuals.Changes changes where
  refl xmpp := quiet (Xmpp.Quiet.refl xmpp)
  trans := trans
  isYourEvent reading handler event xmpp :=
    quiet (continues_isYourEvent reading handler event xmpp).2
  isStillExist reading handler xmpp := by
    show changes xmpp (handler.isStillExist reading xmpp).2.2
    rcases isStillExist_cases reading handler xmpp with same | ⟨-, lapsed⟩
    · rw [same]
      exact quiet (Xmpp.Quiet.refl xmpp)
    · rw [lapsed]
      exact quiet (Xmpp.quiet_release _ xmpp)
  pollStateHandler _ _ xmpp := quiet (Xmpp.Quiet.refl xmpp)
  unknownEvent reading event xmpp := by
    show changes xmpp (unknownEvent reading event xmpp).2
    rcases unknownEvent_cases reading event xmpp with none | ⟨handler, created, -⟩
    · rw [none]
      exact quiet (Xmpp.Quiet.refl xmpp)
    · rw [created]
      exact quiet xmpp.quiet_getUniqueId
  onStateChange _ _ xmpp := notified _ xmpp
  preExecute reading handler xmpp := quiet (continues_preExecute reading handler xmpp).2
  deleteEvent event xmpp := quiet (Xmpp.quiet_deleteEvent event xmpp)
  deleteHandler handler xmpp := quiet (Xmpp.quiet_release _ xmpp)

/-- Every call of the call machine only draws ids. -/
theorem callVirtuals_draws :
    callVirtuals.Changes fun before after => before.ids.draws ≤ after.ids.draws :=
  callVirtuals_changes le_trans (fun quiet => quiet.draws) fun _ _ => le_refl _

end JnTapi
