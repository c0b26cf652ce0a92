/-
This file proves when an error reply to the command that creates a call drops the
call.

The factory takes a reply for the answer to such a command only when the reply
repeats the command with a form and comes from the server of the commands. Every
other reply becomes a plain result or the answer to an authorization, and no handler
of a call reads an error from these.
-/

import JnTapi.NullReads
import JnTapi.Replies

namespace JnTapi

open Library XmppEventFactory

/-! ### The factory -/

/-- The reply repeats the command that creates a call, as `XmppCallRequestEvent::checkEvent` looks
for it. -/
def IQ.RepeatsCreate (iq : IQ) : Prop :=
  iq.sender = onsipActiveCallsCommand ∧
    ∃ command ∈ iq.command, command.node = "create".toList ∧ command.form.isSome = true

instance (iq : IQ) : Decidable iq.RepeatsCreate :=
  @instDecidableAnd _ _ _ (Option.decidableExistsMem _)

namespace XmppEventFactory

theorem create_ne_auth : ("create".toList : TString) ≠ onsipAuthNode := by decide

theorem replyForm_eq_some_iff {iq : IQ} {command : Command} {form : DataForm} :
    replyForm iq = some (command, form) ↔
      iq.command = some command ∧ iq.isReply = true ∧ command.form = some form := by
  unfold replyForm
  cases iq.command with
  | none => simp
  | some other =>
    dsimp only
    split_ifs with reply
    · rw [Option.map_eq_some_iff]
      constructor
      · rintro ⟨given, isForm, same⟩
        cases same
        exact ⟨rfl, reply, isForm⟩
      · rintro ⟨same, -, isForm⟩
        cases same
        exact ⟨form, isForm, rfl⟩
    · simp [reply]

/-- A reply that repeats the command makes the answer to it when it has an error. -/
theorem iqFactory_of_repeatsCreate {iq : IQ} (reply : iq.isReply = true)
    (failed : iq.hasError = true) (repeats : iq.RepeatsCreate) (context : Long) :
    iqFactory iq context = .ok (some ⟨iq.id, true, context, .callRequest []⟩) := by
  obtain ⟨sender, command, given, node, hasForm⟩ := repeats
  obtain ⟨form, isForm⟩ := Option.isSome_iff_exists.mp hasForm
  have read : replyForm iq = some (command, form) :=
    replyForm_eq_some_iff.mpr ⟨given, reply, isForm⟩
  have notAuth : ¬ command.node = onsipAuthNode := fun same =>
    create_ne_auth (node.symm.trans same)
  have first : checkAuth iq context = .ok none := by
    rw [checkAuth, read]
    exact if_neg notAuth
  have second : checkCallRequest iq context =
      .ok (some ⟨iq.id, true, context, .callRequest []⟩) := by
    rw [checkCallRequest, read]
    dsimp only
    rw [if_pos ⟨node, sender⟩, readReply, if_pos failed]
  rw [iqFactory, first, second]
  rfl

/-- The answer to the command is made of a reply that repeats it only. -/
theorem repeatsCreate_of_checkCallRequest {iq : IQ} {context : Long} {event : XmppEvent}
    (made : checkCallRequest iq context = .ok (some event)) :
    iq.RepeatsCreate ∧ event.isError = iq.hasError := by
  unfold checkCallRequest at made
  split at made
  case h_2 => cases made
  case h_1 command form read =>
    obtain ⟨given, -, isForm⟩ := replyForm_eq_some_iff.mp read
    split_ifs at made with repeats
    · refine ⟨⟨repeats.2, command, given, repeats.1, Option.isSome_iff_exists.mpr ⟨form, isForm⟩⟩, ?_⟩
      rcases readReply_cases iq context form "call-setup-id".toList .callRequest with
        ⟨-, failed⟩ | ⟨-, read, -, failed⟩ | ⟨-, value, result⟩
      · rw [failed] at made
        cases made
      · rw [failed] at made
        cases made
      · rw [result] at made
        cases made
        rfl
    · cases made

/-- What the factory makes of a reply: the answer to the command that creates a call, when the reply
repeats the command, or another answer. -/
theorem iqFactory_create {iq : IQ} {context : Long} {event : XmppEvent}
    (made : iqFactory iq context = .ok (some event)) :
    (iq.RepeatsCreate ∧ event.isError = iq.hasError ∧ event.context = context ∧
      ∃ callSetupId, event.data = .callRequest callSetupId) ∨
    event.data = .iqResult ∨ ∃ expireDate, event.data = .auth expireDate := by
  unfold iqFactory at made
  rcases first : checkAuth iq context with _ | _ | authorized
  · rw [first] at made
    cases made
  · rw [first] at made
    rcases second : checkCallRequest iq context with _ | _ | requested
    · rw [second] at made
      cases made
    · rw [second] at made
      exact Or.inr (Or.inl (checkIqResult_data (Except.ok.inj made)).2)
    · rw [second] at made
      obtain rfl := Option.some.inj (Except.ok.inj made)
      obtain ⟨repeats, failed⟩ := repeatsCreate_of_checkCallRequest second
      obtain ⟨same, request⟩ := checkCallRequest_data second
      exact Or.inl ⟨repeats, failed, same, request⟩
  · rw [first] at made
    obtain rfl := Option.some.inj (Except.ok.inj made)
    exact Or.inr (Or.inr (checkAuth_data first))

end XmppEventFactory

/-! ### The handlers -/

namespace CallHandler

/-- The handler waits for the answer to a command that creates a call, with this context. -/
def awaitsCreate (context : Long) (handler : CallHandler) : Bool :=
  match handler.kind with
  | .makeCall make => make.contextId = context
  | _ => false

theorem isYourEvent_callRequest {event : XmppEvent} {callSetupId : TString}
    (request : event.data = .callRequest callSetupId) (reading : Reading) (handler : CallHandler)
    (xmpp : Xmpp) :
    (handler.isYourEvent reading event xmpp).1 = handler.awaitsCreate event.context ∧
      (handler.isYourEvent reading event xmpp).2.1.state =
        if handler.awaitsCreate event.context = true ∧ event.isError = true then .dropped
        else handler.state := by
  have other : handler.dropRequestOrReply reading event xmpp = (false, handler, xmpp) := by
    unfold dropRequestOrReply checkDropRequestEvent checkIqReplyDropRequest
    rw [request]
  unfold isYourEvent awaitsCreate
  cases kind : handler.kind with
  | outgoing =>
    simp only [outgoingIsYourEvent, request, other]
    simp
  | incoming =>
    simp only [incomingIsYourEvent, request, other]
    simp
  | makeCall make =>
    simp only [makeCallIsYourEvent, request]
    by_cases own : make.contextId = event.context
    · cases failed : event.isError with
      | true => simp [own, state, assignNewState, StateItem.assignNewState]
      | false => simp [own]
    · simp [own]

/-- Neither a plain result nor the answer to an authorization changes the state of a call. -/
theorem state_isYourEvent_other {event : XmppEvent}
    (other : event.data = .iqResult ∨ ∃ expireDate, event.data = .auth expireDate)
    (reading : Reading) (handler : CallHandler) (xmpp : Xmpp) :
    (handler.isYourEvent reading event xmpp).2.1.state = handler.state := by
  have reply : (handler.dropRequestOrReply reading event xmpp).2.1.state = handler.state := by
    unfold dropRequestOrReply checkDropRequestEvent checkIqReplyDropRequest
    rcases other with result | ⟨expireDate, auth⟩
    · rw [result]
      dsimp only
      split_ifs <;> rfl
    · rw [auth]
  rcases other with result | ⟨expireDate, auth⟩
  · unfold isYourEvent
    split
    · simp only [outgoingIsYourEvent, result, reply]
    · simp only [incomingIsYourEvent, result, reply]
    · simp only [makeCallIsYourEvent, result, reply]
  · unfold isYourEvent
    split
    · simp only [outgoingIsYourEvent, auth, reply]
    · simp only [incomingIsYourEvent, auth, reply]
    · simp only [makeCallIsYourEvent, auth, reply]

end CallHandler

/-- No handler of the login takes the answer to a command that creates a call. -/
theorem InitStateHandler.isYourEvent_callRequest {event : XmppEvent} {callSetupId : TString}
    (request : event.data = .callRequest callSetupId) (reading : Reading)
    (handler : InitStateHandler) (xmpp : Xmpp) :
    (handler.isYourEvent reading event xmpp).1 = false := by
  unfold isYourEvent anyState
  rw [request]
  cases handler.state <;> rfl

/-! ### The machines -/

namespace OnSipXmpp

/-- The handlers of the calls once the event has been offered to both machines, before the check
that removes those that are over -/
def offeredCalls (initReadings callReadings : Readings) (event : XmppEvent) (object : OnSipXmpp) :
    List CallHandler :=
  match object.initStateMachine.signalEvent initVirtuals initReadings event false object.xmpp with
  | (true, _) => object.calls.stateHandlers
  | (false, _, xmpp) => (StateMachine.offer callVirtuals callReadings.offer event
      object.calls.stateHandlers xmpp).2.1

/-- A reply changes the handlers of the calls as `offeredCalls` says, and then the check may remove
some. -/
theorem stateHandlers_signalEvent {event : XmppEvent}
    (noCall : ∀ ace, event.data ≠ .activeCall ace) (initReadings callReadings : Readings)
    (object : OnSipXmpp) :
    (object.signalEvent initReadings callReadings event).calls.stateHandlers =
        object.offeredCalls initReadings callReadings event ∨
      ∃ xmpp, (object.signalEvent initReadings callReadings event).calls.stateHandlers =
        (StateMachine.checkStateHandlersExist callVirtuals callReadings.check
          (object.offeredCalls initReadings callReadings event) xmpp).1 := by
  unfold signalEvent offeredCalls
  rcases object.initStateMachine.signalEvent initVirtuals initReadings event false object.xmpp with
    ⟨handled, machine, xmpp⟩
  cases handled with
  | true => exact Or.inl rfl
  | false =>
    right
    dsimp only
    have unknown : ∀ object, callVirtuals.unknownEvent callReadings.offer event object =
        (none, object) := by
      intro other
      show CallHandler.unknownEvent callReadings.offer event other = _
      unfold CallHandler.unknownEvent
      split
      · rename_i ace kind
        exact absurd kind (noCall ace)
      · rfl
    have handledBy : (StateMachine.handleEvent callVirtuals callReadings.offer event false
        object.calls.stateHandlers xmpp).2.1 = (StateMachine.offer callVirtuals callReadings.offer
        event object.calls.stateHandlers xmpp).2.1 := by
      unfold StateMachine.handleEvent
      split
      · rename_i outcome
        rw [outcome]
      · rename_i outcome
        rw [outcome, unknown]
    refine ⟨(StateMachine.handleEvent callVirtuals callReadings.offer event false
      object.calls.stateHandlers xmpp).2.2, ?_⟩
    rw [← handledBy]
    unfold signalCalls
    split <;> rename_i outcome
    · exact (congrArg (fun signalled => signalled.2.1) outcome).symm
    · exact (congrArg (fun signalled => signalled.2.1) outcome).symm

/-- The reply puts the handler at the position in `Dropped`, or leaves it there. -/
def PutsInDropped (initReadings callReadings : Readings) (iq : IQ) (context : Long)
    (position : Nat) (object : OnSipXmpp) : Prop :=
  ∃ event, iqFactory iq context = .ok (some event) ∧
    ∃ handler ∈ (object.offeredCalls initReadings callReadings event)[position]?,
      handler.state = .dropped

/-- The answer to a command that creates a call passes the login. -/
theorem offeredCalls_callRequest {event : XmppEvent} {callSetupId : TString}
    (request : event.data = .callRequest callSetupId) (initReadings callReadings : Readings)
    (object : OnSipXmpp) :
    ∃ xmpp, object.offeredCalls initReadings callReadings event =
      (StateMachine.offer callVirtuals callReadings.offer event object.calls.stateHandlers
        xmpp).2.1 := by
  unfold offeredCalls
  split
  case h_1 next handled =>
    exfalso
    have accepted := congrArg Prod.fst handled
    unfold StateMachineBase.signalEvent StateMachine.signalEvent StateMachine.handleEvent at accepted
    rcases StateMachine.offer_cases refusesUnchanged_initVirtuals initReadings.offer event
        object.initStateMachine.stateHandlers object.xmpp with
      ⟨-, refused⟩ | ⟨before, handler, after, next, later, -, -, accepts, -⟩
    · rw [refused] at accepted
      cases accepted
    · have refuses := handler.isYourEvent_callRequest request initReadings.offer object.xmpp
      rw [show handler.isYourEvent initReadings.offer event object.xmpp = _ from accepts] at refuses
      cases refuses
  case h_2 machine xmpp handled => exact ⟨xmpp, rfl⟩

/-- Any other reply leaves the state of every handler of a call. -/
theorem state_offeredCalls {event : XmppEvent}
    (other : event.data = .iqResult ∨ ∃ expireDate, event.data = .auth expireDate)
    (initReadings callReadings : Readings) {object : OnSipXmpp} {position : Nat}
    {handler : CallHandler} (found : object.calls.stateHandlers[position]? = some handler) :
    ∃ next, (object.offeredCalls initReadings callReadings event)[position]? = some next ∧
      next.state = handler.state := by
  unfold offeredCalls
  split
  case h_1 next handled => exact ⟨handler, found, rfl⟩
  case h_2 machine xmpp handled =>
    rw [StateMachine.getElem?_offer CallHandler.refusesUnchanged_callVirtuals, found]
    split_ifs
    · exact ⟨_, rfl, handler.state_isYourEvent_other other callReadings.offer xmpp⟩
    · exact ⟨handler, rfl, rfl⟩

/-- The answer to a command that creates a call puts the handler that waits for it in `Dropped`
just when it has an error, and no handler in front takes it. -/
theorem state_offeredCalls_callRequest {event : XmppEvent} {callSetupId : TString}
    (request : event.data = .callRequest callSetupId) (initReadings callReadings : Readings)
    {object : OnSipXmpp} {position : Nat} {handler : CallHandler}
    (found : object.calls.stateHandlers[position]? = some handler)
    (awaits : handler.awaitsCreate event.context = true) :
    (∃ next ∈ (object.offeredCalls initReadings callReadings event)[position]?,
      next.state = .dropped) ↔
      handler.state = .dropped ∨ (event.isError = true ∧
        ∀ earlier ∈ object.calls.stateHandlers.take position,
          earlier.awaitsCreate event.context = false) := by
  obtain ⟨xmpp, offered⟩ := offeredCalls_callRequest request initReadings callReadings object
  have answers := fun other : CallHandler =>
    other.isYourEvent_callRequest request callReadings.offer xmpp
  have first : (StateMachine.offer callVirtuals callReadings.offer event object.calls.stateHandlers
      xmpp).1 = some position ↔ ∀ earlier ∈ object.calls.stateHandlers.take position,
        earlier.awaitsCreate event.context = false := by
    rw [StateMachine.offer_fst_eq_some_iff CallHandler.refusesUnchanged_callVirtuals]
    constructor
    · rintro ⟨-, refusing⟩ earlier member
      exact (answers earlier).1.symm.trans (refusing earlier member)
    · intro others
      exact ⟨⟨handler, found, (answers handler).1.trans awaits⟩, fun earlier member =>
        (answers earlier).1.trans (others earlier member)⟩
  rw [offered, StateMachine.getElem?_offer CallHandler.refusesUnchanged_callVirtuals, ← first, found]
  split_ifs with reached
  · have state := (answers handler).2
    rw [awaits] at state
    constructor
    · rintro ⟨next, same, dropped⟩
      obtain rfl := Option.some.inj same
      refine Or.imp (fun kept => ?_) (fun failed => ⟨failed, reached⟩)
        (Bool.eq_false_or_eq_true event.isError).symm
      rw [← dropped]
      exact (state.trans (if_neg (by simp [kept]))).symm
    · rintro (dropped | ⟨failed, -⟩)
      · refine ⟨_, rfl, state.trans ?_⟩
        split_ifs
        · rfl
        · exact dropped
      · exact ⟨_, rfl, state.trans (if_pos ⟨rfl, failed⟩)⟩
  · constructor
    · rintro ⟨next, same, dropped⟩
      obtain rfl := Option.some.inj same
      exact Or.inl dropped
    · rintro (dropped | ⟨-, first⟩)
      · exact ⟨handler, rfl, dropped⟩
      · exact absurd first reached

/-- An error reply to the command of a handler puts the handler in `Dropped` just when it repeats the
command with an error element, and no handler in front has the same context id. A handler that was in
`Dropped` stays there, unless the factory reads what is not there. -/
theorem putsInDropped_iff {object : OnSipXmpp} {position : Nat} {handler : CallHandler}
    {make : MakeCallData} (found : object.calls.stateHandlers[position]? = some handler)
    (makes : handler.kind = .makeCall make) {iq : IQ} (error : iq.subtype = .error)
    (initReadings callReadings : Readings) :
    object.PutsInDropped initReadings callReadings iq make.contextId position ↔
      (handler.state = .dropped ∧ ¬ iq.LacksField ∧ ¬ iq.LacksValue) ∨
        (iq.hasError = true ∧ iq.RepeatsCreate ∧
          ∀ earlier ∈ object.calls.stateHandlers.take position,
            earlier.awaitsCreate make.contextId = false) := by
  have reply : iq.isReply = true := by rw [IQ.isReply, error]
  have awaits : handler.awaitsCreate make.contextId = true := by
    rw [CallHandler.awaitsCreate, makes]
    exact decide_eq_true rfl
  have failing : ∀ {read}, iqFactory iq make.contextId = .error read →
      ¬ object.PutsInDropped initReadings callReadings iq make.contextId position := by
    rintro read nothing ⟨event, made, -⟩
    rw [nothing] at made
    cases made
  rcases iqFactory_reply reply make.contextId with
    ⟨lacks, read, -, nothing⟩ | ⟨lacks, read, -, nothing⟩ | ⟨reads, event, made, -, -, -⟩
  · refine iff_of_false (failing nothing) ?_
    rintro (⟨-, reads, -⟩ | ⟨failed, -⟩)
    · exact reads lacks
    · exact Bool.false_ne_true (lacks.1.symm.trans failed)
  · refine iff_of_false (failing nothing) ?_
    rintro (⟨-, -, reads⟩ | ⟨failed, -⟩)
    · exact reads lacks
    · exact Bool.false_ne_true (lacks.1.symm.trans failed)
  have only : object.PutsInDropped initReadings callReadings iq make.contextId position ↔
      ∃ next ∈ (object.offeredCalls initReadings callReadings event)[position]?,
        next.state = .dropped := by
    constructor
    · rintro ⟨other, also, dropped⟩
      rw [made] at also
      cases also
      exact dropped
    · exact fun dropped => ⟨event, made, dropped⟩
  rw [only]
  rcases iqFactory_create made with ⟨repeats, failed, context, callSetupId, request⟩ | other
  · rw [← context] at awaits ⊢
    rw [state_offeredCalls_callRequest request initReadings callReadings found awaits, failed]
    exact or_congr (and_iff_left reads).symm (and_congr_right fun _ => (and_iff_right repeats).symm)
  · obtain ⟨next, sameHandler, state⟩ :=
      state_offeredCalls other initReadings callReadings found
    rw [sameHandler]
    constructor
    · rintro ⟨last, same, dropped⟩
      obtain rfl := Option.some.inj same
      exact Or.inl ⟨state.symm.trans dropped, reads⟩
    · rintro (⟨dropped, -⟩ | ⟨failed, repeats, -⟩)
      · exact ⟨next, rfl, state.trans dropped⟩
      · have create := iqFactory_of_repeatsCreate reply failed repeats make.contextId
        rw [made] at create
        cases create
        rcases other with result | ⟨expireDate, auth⟩
        · cases result
        · cases auth

/-- Before the generator of the ids has wrapped, no handler in front has the same context id. -/
theorem awaitsCreate_once {reading : Reading} {actions : List Action} {object : OnSipXmpp}
    (reached : run step actions (new reading) = some object)
    (few : object.xmpp.ids.draws < 2 ^ 31) {position : Nat} {handler : CallHandler}
    {make : MakeCallData} (found : object.calls.stateHandlers[position]? = some handler)
    (makes : handler.kind = .makeCall make) (given : make.contextId ≠ 0) :
    ∀ earlier ∈ object.calls.stateHandlers.take position,
      earlier.awaitsCreate make.contextId = false := by
  intro earlier before
  by_contra also
  have distinct : (object.calls.stateHandlers.map CallHandler.contextIds).sum.Nodup := by
    refine Multiset.nodup_of_le ?_ ((answerable_of_run reached).nodup_contextIds few)
    rw [contextIds, CallSystem.callHandlers, List.map_append, List.sum_append]
    exact (Multiset.le_add_right _ _).trans (Multiset.le_add_left _ _)
  have keeps : ∀ other : CallHandler, other.awaitsCreate make.contextId = true →
      make.contextId ∈ other.contextIds := by
    intro other awaits
    unfold CallHandler.awaitsCreate at awaits
    unfold CallHandler.contextIds
    cases kind : other.kind with
    | makeCall data =>
      rw [kind] at awaits
      have same : data.contextId = make.contextId := of_decide_eq_true awaits
      rw [← same] at given ⊢
      exact Multiset.mem_add.mpr (Or.inl (mem_nonzero given))
    | _ =>
      rw [kind] at awaits
      cases awaits
  have own : handler.awaitsCreate make.contextId = true := by
    rw [CallHandler.awaitsCreate, makes]
    exact decide_eq_true rfl
  have inside := (List.getElem?_eq_some_iff.mp found).1
  have split : object.calls.stateHandlers = object.calls.stateHandlers.take position ++
      handler :: object.calls.stateHandlers.drop (position + 1) := by
    rw [← (List.getElem?_eq_some_iff.mp found).2, List.getElem_cons_drop, List.take_append_drop]
  rw [split, List.map_append, List.sum_append, List.map_cons, List.sum_cons] at distinct
  have apart := (Multiset.nodup_add.mp distinct).2.2
  refine Multiset.disjoint_left.mp apart ?_ (Multiset.mem_add.mpr (Or.inl (keeps handler own)))
  exact Multiset.mem_of_le (List.le_sum_of_mem (List.mem_map_of_mem before))
    (keeps earlier (Bool.not_eq_false _ ▸ also))

/-- The server refuses the call and repeats the command, and the call is dropped. -/
theorem putsInDropped_iff_refusal : ∃ object handler make,
    run step Example.logInAndMake (new (Example.reading 0)) = some object ∧
      object.calls.stateHandlers[0]? = some handler ∧ handler.kind = .makeCall make ∧
      object.PutsInDropped (Example.readings 510) (Example.readings 510) Example.refusal
        make.contextId 0 := by
  have reached : run step Example.logInAndMake (new (Example.reading 0)) = some _ := rfl
  refine ⟨_, _, _, reached, rfl, rfl, ?_⟩
  refine (putsInDropped_iff rfl rfl rfl _ _).mpr (Or.inr ⟨rfl, by decide, ?_⟩)
  exact fun _ absent => absurd absent List.not_mem_nil

/-- The server refuses the call and does not repeat the command: the error is not taken for the
answer, and the call goes on. -/
theorem not_putsInDropped_plain :
    ¬ ∀ (reading : Reading) (actions : List Action) (object : OnSipXmpp) (position : Nat)
      (handler : CallHandler) (make : MakeCallData) (iq : IQ)
      (initReadings callReadings : Readings),
      run step actions (new reading) = some object → object.calls.polling = .idle →
      object.calls.stateHandlers[position]? = some handler → handler.kind = .makeCall make →
      iq.subtype = .error →
      object.PutsInDropped initReadings callReadings iq make.contextId position := by
  intro claim
  have reached : run step Example.logInAndMake (new (Example.reading 0)) = some _ := rfl
  obtain ⟨event, made, handler, found, dropped⟩ := claim _ _ _ 0 _ _
    ⟨.error, [], onsipActiveCallsCommand, true, none⟩ (Example.readings 510)
    (Example.readings 510) reached rfl rfl rfl rfl
  cases made
  cases found
  cases dropped

end OnSipXmpp

end JnTapi
