/-
This file proves that each SIP call on the phone has one handler.

The handler of a call on the phone takes every active-call event with its SIP
call id, and the data that a retract brings back is that of a branch of the same
SIP call. So the id of the handler never changes, and an event that nobody takes
is that of a SIP call without a handler.
-/

import JnTapi.Call.Legs

namespace JnTapi

open Library

namespace CallHandler

/-! ### Calls on the phone -/

/-- The handler is that of the call on the phone with this SIP call id. -/
structure OnPhone (sipCallId : TString) (handler : CallHandler) : Prop where
  kind : handler.kind = .outgoing ∨ handler.kind = .incoming
  each : handler.Each fun data => data.sipCallId = sipCallId

section onPhone

variable {sipCallId : TString} {handler : CallHandler}

theorem OnPhone.assignNewState (onPhone : handler.OnPhone sipCallId) (reading : Reading)
    (state : CallStates) (eventData : Option XmppEvent) (xmpp : Xmpp) :
    (handler.assignNewState reading state eventData xmpp).1.OnPhone sipCallId :=
  ⟨onPhone.kind, onPhone.each.current, onPhone.each.branch⟩

theorem OnPhone.addBranch (onPhone : handler.OnPhone sipCallId) (id : TString) {ace : ActiveCall}
    (same : ace.sipCallid = sipCallId) (updateCallerId : Bool) (callSetupId : Option TString) :
    (handler.addBranch id ace updateCallerId callSetupId).OnPhone sipCallId :=
  ⟨onPhone.kind, onPhone.each.addBranch id ace updateCallerId callSetupId fun _ => same⟩

theorem OnPhone.assignCallStateData (onPhone : handler.OnPhone sipCallId) (id : TString)
    {ace : ActiveCall} (same : ace.sipCallid = sipCallId) (updateCallerId : Bool) :
    (handler.assignCallStateData id ace updateCallerId).OnPhone sipCallId :=
  ⟨onPhone.kind, same, onPhone.each.branch⟩

theorem OnPhone.retracted (onPhone : handler.OnPhone sipCallId) {id : TString}
    (present : handler.branches.hasId id = true) {last : Bool} {callData : OnSipCallStateData}
    {branches : CallBranches}
    (outcome : handler.branches.checkDroppedCall handler.stateData id =
      (last, callData, branches)) :
    OnPhone sipCallId { handler.withStateData callData with branches := branches } :=
  ⟨onPhone.kind, onPhone.each.retracted present outcome⟩

theorem OnPhone.dropRequestOrReply (onPhone : handler.OnPhone sipCallId) (reading : Reading)
    (event : XmppEvent) (xmpp : Xmpp) :
    (handler.dropRequestOrReply reading event xmpp).2.1.OnPhone sipCallId := by
  obtain ⟨contextIds, result | result⟩ := dropRequestOrReply_handler reading handler event xmpp
  all_goals
    rw [result]
    exact ⟨onPhone.kind, onPhone.each.current, onPhone.each.branch⟩

/-- What the handler makes of a confirmed event of its SIP call -/
theorem OnPhone.confirmed (onPhone : handler.OnPhone sipCallId) (reading : Reading)
    (event : XmppEvent) {ace : ActiveCall} (same : ace.sipCallid = sipCallId) (xmpp : Xmpp) :
    (((handler.addBranch event.id ace true none).assignNewState reading .connected (some event)
      xmpp).1.assignCallStateData event.id ace true).OnPhone sipCallId :=
  ((onPhone.addBranch event.id same true none).assignNewState reading _ _ xmpp).assignCallStateData
    event.id same true

theorem OnPhone.isYourEvent (onPhone : handler.OnPhone sipCallId) (reading : Reading)
    (event : XmppEvent) (xmpp : Xmpp) :
    (handler.isYourEvent reading event xmpp).2.1.OnPhone sipCallId := by
  unfold CallHandler.isYourEvent
  rcases onPhone.kind with kind | kind
  · rw [kind]
    dsimp only
    unfold outgoingIsYourEvent
    split
    case h_1 ace isCall =>
      split_ifs with other confirmed
      · exact onPhone
      · exact onPhone.confirmed reading event ((not_not.mp other).trans onPhone.each.current) xmpp
      · exact onPhone.addBranch event.id ((not_not.mp other).trans onPhone.each.current) true none
    case h_2 =>
      split_ifs
      · exact onPhone
      · exact onPhone.assignNewState reading _ _ xmpp
    case h_3 => exact onPhone.dropRequestOrReply reading event xmpp
  · rw [kind]
    dsimp only
    unfold incomingIsYourEvent
    split
    case h_1 ace isCall =>
      split_ifs with other confirmed
      · exact onPhone
      · exact onPhone.confirmed reading event ((not_not.mp other).trans onPhone.each.current) xmpp
      · exact onPhone.addBranch event.id ((not_not.mp other).trans onPhone.each.current) true none
    case h_2 =>
      split_ifs with absent
      · exact onPhone
      · have present : handler.branches.hasId event.id = true := by simpa using absent
        rcases outcome : handler.branches.checkDroppedCall handler.stateData event.id with
          ⟨last, callData, branches⟩
        have remains := onPhone.retracted present outcome
        cases last with
        | true => exact remains.assignNewState reading _ _ xmpp
        | false => exact remains
    case h_3 => exact onPhone.dropRequestOrReply reading event xmpp

/-- Of the active-call events, the handler takes those of its SIP call. -/
theorem OnPhone.accepts_iff (onPhone : handler.OnPhone sipCallId) (reading : Reading)
    {event : XmppEvent} {ace : ActiveCall} (isCall : event.data = .activeCall ace) (xmpp : Xmpp) :
    (handler.isYourEvent reading event xmpp).1 = true ↔ ace.sipCallid = sipCallId := by
  unfold CallHandler.isYourEvent
  rw [← onPhone.each.current]
  rcases onPhone.kind with kind | kind
  · rw [kind]
    dsimp only
    unfold outgoingIsYourEvent
    rw [isCall]
    dsimp only
    split_ifs with other confirmed
    · exact iff_of_false id other
    · exact iff_of_true rfl (not_not.mp other)
    · exact iff_of_true rfl (not_not.mp other)
  · rw [kind]
    dsimp only
    unfold incomingIsYourEvent
    rw [isCall]
    dsimp only
    split_ifs with other confirmed
    · exact iff_of_false id other
    · exact iff_of_true rfl (not_not.mp other)
    · exact iff_of_true rfl (not_not.mp other)

theorem OnPhone.moved (onPhone : handler.OnPhone sipCallId) (next : Move) :
    (handler.moved next).OnPhone sipCallId := by
  cases next with
  | event reading event xmpp => exact onPhone.isYourEvent reading event xmpp
  | check reading xmpp =>
    unfold CallHandler.moved
    rcases isStillExist_cases reading handler xmpp with same | ⟨-, lapsed⟩
    · simp only [same]
      exact onPhone
    · simp only [lapsed]
      exact ⟨onPhone.kind, onPhone.each.current, onPhone.each.branch⟩

end onPhone

theorem onPhone_newOutgoing (reading : Reading) (event : XmppEvent) (ace : ActiveCall)
    (callId : Long) : (newOutgoing reading event ace callId).OnPhone ace.sipCallid := by
  refine ⟨Or.inl rfl, rfl, fun branch member => ?_⟩
  rcases CallBranches.mem_addBranch member with rfl | none
  · rfl
  · exact absurd none List.not_mem_nil

theorem onPhone_newIncoming (reading : Reading) (event : XmppEvent) (ace : ActiveCall)
    (callId : Long) : (newIncoming reading event ace callId).OnPhone ace.sipCallid := by
  refine ⟨Or.inr rfl, rfl, fun branch member => ?_⟩
  rcases CallBranches.mem_addBranch member with rfl | none
  · rfl
  · exact absurd none List.not_mem_nil

/-- An unknown event creates the handler of its own SIP call. -/
theorem onPhone_unknownEvent {reading : Reading} {event : XmppEvent} {xmpp later : Xmpp}
    {handler : CallHandler} (creates : unknownEvent reading event xmpp = (some handler, later)) :
    ∃ ace, event.data = .activeCall ace ∧ handler.OnPhone ace.sipCallid := by
  unfold unknownEvent at creates
  split at creates
  · rename_i ace isCall
    refine ⟨ace, isCall, ?_⟩
    dsimp only at creates
    split_ifs at creates
    · obtain rfl := Option.some.inj (Prod.mk.inj creates).1
      exact onPhone_newOutgoing reading event ace _
    · obtain rfl := Option.some.inj (Prod.mk.inj creates).1
      exact onPhone_newIncoming reading event ace _
    · cases creates
  · cases creates

/-! ### What every handler is known by -/

/-- The handler is known by its SIP call id, or by its call setup id. -/
def Known (handler : CallHandler) : Prop :=
  (∃ sipCallId, handler.OnPhone sipCallId) ∨
    ∃ setup make, Strings.cStr setup = setup ∧ handler.Making setup make

theorem Known.moved {handler : CallHandler} (known : handler.Known) (next : Move) :
    (handler.moved next).Known := by
  rcases known with ⟨sipCallId, onPhone⟩ | ⟨setup, make, printable, making⟩
  · exact Or.inl ⟨sipCallId, onPhone.moved next⟩
  · exact Or.inr ⟨setup, make, printable, (making.moved printable next).1⟩

theorem known_created {handler : CallHandler} (created : handler.Created) : handler.Known := by
  rcases created with ⟨reading, event, ace, callId, -, -, rfl⟩ |
    ⟨reading, event, ace, callId, -, -, rfl⟩ | ⟨new, reading, xmpp, ⟨first, toDial, callId, rfl⟩, rfl⟩
  · exact Or.inl ⟨_, onPhone_newOutgoing reading event ace callId⟩
  · exact Or.inl ⟨_, onPhone_newIncoming reading event ace callId⟩
  · exact Or.inr ⟨_, _, cStr_newCallSetupId reading,
      making_preExecute first reading toDial callId xmpp⟩

/-- The SIP call id of the handler of a call on the phone -/
def sipCall? (handler : CallHandler) : Option TString :=
  match handler.kind with
  | .makeCall _ => none
  | _ => some handler.stateData.sipCallId

theorem OnPhone.sipCall?_eq {sipCallId : TString} {handler : CallHandler}
    (onPhone : handler.OnPhone sipCallId) : handler.sipCall? = some sipCallId := by
  unfold sipCall?
  rcases onPhone.kind with kind | kind
  · rw [kind, ← onPhone.each.current]
  · rw [kind, ← onPhone.each.current]

theorem Making.sipCall?_eq {setup : TString} {make : MakeCallData} {handler : CallHandler}
    (making : handler.Making setup make) : handler.sipCall? = none := by
  obtain ⟨data, kind, -⟩ := making.kind
  unfold sipCall?
  rw [kind]

/-- No move changes the SIP call id. -/
theorem Known.sipCall?_moved {handler : CallHandler} (known : handler.Known) (next : Move) :
    (handler.moved next).sipCall? = handler.sipCall? := by
  rcases known with ⟨sipCallId, onPhone⟩ | ⟨setup, make, printable, making⟩
  · rw [(onPhone.moved next).sipCall?_eq, onPhone.sipCall?_eq]
  · rw [(making.moved printable next).1.sipCall?_eq, making.sipCall?_eq]

end CallHandler

/-! ### One handler for each SIP call -/

namespace CallSystem

open CallHandler

/-- The SIP call ids of the handlers of the calls on the phone -/
def sipCalls (system : CallSystem) : List TString := system.stateHandlers.filterMap sipCall?

/-- When all handlers refuse an active-call event, none is that of its SIP call. -/
theorem not_mem_sipCalls {system : CallSystem} (known : ∀ handler ∈ system.stateHandlers,
      handler.Known) {reading : Reading} {event : XmppEvent} {ace : ActiveCall}
    (isCall : event.data = .activeCall ace)
    (refused : ∀ handler ∈ system.stateHandlers,
      (handler.isYourEvent reading event system.xmpp).1 = false) :
    ace.sipCallid ∉ system.sipCalls := by
  intro member
  obtain ⟨handler, inside, same⟩ := List.mem_filterMap.mp member
  rcases known handler inside with ⟨sipCallId, onPhone⟩ | ⟨setup, make, -, making⟩
  · rw [onPhone.sipCall?_eq] at same
    have accepts := (onPhone.accepts_iff reading isCall system.xmpp).mpr
      (Option.some.inj same).symm
    rw [refused handler inside] at accepts
    cases accepts
  · rw [making.sipCall?_eq] at same
    cases same

/-- No step gives a second handler to a SIP call. -/
theorem nodup_sipCalls_step {system next : CallSystem} {action : CallAction}
    (stepped : system.step action = some next) (requests : system.NewRequests)
    (known : ∀ handler ∈ system.stateHandlers, handler.Known) (distinct : system.sipCalls.Nodup) :
    next.sipCalls.Nodup := by
  rcases tags_step (fun _ next known => Known.sipCall?_moved known next) stepped requests
    (fun _ next known => known.moved next) (fun _ created => known_created created) known with
    fewer | ⟨entered, enters, fewer⟩
  · exact distinct.sublist fewer
  · refine List.Nodup.sublist fewer ?_
    cases enters with
    | unknown signals refused creates =>
      obtain ⟨ace, isCall, onPhone⟩ := onPhone_unknownEvent creates
      rw [onPhone.sipCall?_eq]
      exact List.nodup_append.mpr ⟨distinct, List.nodup_singleton _, fun first member second last =>
        fun same => not_mem_sipCalls known isCall refused
          (List.mem_singleton.mp last ▸ same ▸ member)⟩
    | executed pending new =>
      obtain ⟨created, toDial, callId, rfl⟩ := new
      rw [(making_preExecute created _ toDial callId system.xmpp).sipCall?_eq]
      show (system.sipCalls ++ []).Nodup
      rw [List.append_nil]
      exact distinct

/-- What an active-call event does to the handlers: the first that accepts it is replaced; or all
refuse it, and it may create a handler for its SIP call, which had none. -/
def TakenOnce (reading : Reading) (event : XmppEvent) (ace : ActiveCall) (system : CallSystem)
    (handled : List CallHandler) : Prop :=
  (∃ before handler after changed, system.stateHandlers = before ++ handler :: after ∧
    (handler.isYourEvent reading event system.xmpp).1 = true ∧
    handled = before ++ changed :: after) ∨
  (∀ handler ∈ system.stateHandlers,
    (handler.isYourEvent reading event system.xmpp).1 = false) ∧
    (handled = system.stateHandlers ∨ ace.sipCallid ∉ system.sipCalls ∧
      ∃ new : CallHandler, new.sipCall? = some ace.sipCallid ∧
        handled = system.stateHandlers ++ [new])

end CallSystem

open CallSystem CallHandler in
/-- One handler for each SIP call: in a reachable machine no two handlers of calls on the phone
have the same SIP call id. Up to the existence check, an active-call event changes one handler at
most; it creates one only if all have refused it, and then none was that of its SIP call. -/
theorem sipCalls_apart {login : LoginInfo} {actions : List CallAction} {system : CallSystem}
    (reached : run CallSystem.step actions (CallSystem.new login) = some system) :
    system.sipCalls.Nodup ∧
    ∀ action next readings event deleteEventData ace, system.step action = some next →
      system.signalOf action = some (readings, event, deleteEventData) →
      event.data = .activeCall ace →
      let handled := StateMachine.handleEvent callVirtuals readings.offer event deleteEventData
        system.stateHandlers system.xmpp
      next.stateHandlers = (StateMachine.checkStateHandlersExist callVirtuals readings.check
        handled.2.1 handled.2.2).1 ∧
      TakenOnce readings.offer event ace system handled.2.1 := by
  have known := CallHandler.forall_of_run (fun _ next known => CallHandler.Known.moved known next)
    (fun _ created => CallHandler.known_created created) reached
  refine ⟨?_, ?_⟩
  · clear known
    have preserved : ∀ (earlier : CallSystem) action next, earlier.step action = some next →
        (earlier.NewRequests ∧ (∀ handler ∈ earlier.stateHandlers, handler.Known) ∧
          earlier.sipCalls.Nodup) →
        next.NewRequests ∧ (∀ handler ∈ next.stateHandlers, handler.Known) ∧
          next.sipCalls.Nodup := by
      rintro earlier action next stepped ⟨requests, known, distinct⟩
      exact ⟨requests.step stepped,
        CallHandler.forall_step (fun _ next known => known.moved next)
          (fun _ created => CallHandler.known_created created) stepped requests known,
        nodup_sipCalls_step stepped requests known distinct⟩
    exact (run_invariant preserved reached ⟨fun _ member => absurd member List.not_mem_nil,
      fun _ member => absurd member List.not_mem_nil, List.nodup_nil⟩).2.2
  · intro action next readings event deleteEventData ace stepped signals isCall handled
    refine ⟨congrArg Prod.fst (step_signalled stepped signals), ?_⟩
    rcases CallHandler.handleEvent_cases readings.offer event deleteEventData system.stateHandlers
      system.xmpp with
      ⟨before, handler, after, changed, later, split, -, accepts, result⟩ |
      ⟨refused, handler, creates, -, result⟩ | ⟨refused, -, result⟩
    · exact Or.inl ⟨before, handler, after, changed, split, by rw [accepts],
        by rw [show handled = _ from result]⟩
    · obtain ⟨other, sameCall, onPhone⟩ := onPhone_unknownEvent creates
      obtain rfl : other = ace := by
        rw [isCall] at sameCall
        exact (XmppEventData.activeCall.inj sameCall).symm
      exact Or.inr ⟨refused, Or.inr ⟨not_mem_sipCalls known isCall refused, handler,
        onPhone.sipCall?_eq, by rw [show handled = _ from result]⟩⟩
    · exact Or.inr ⟨refused, Or.inl (by rw [show handled = _ from result])⟩

/-- Two calls ring, and the first is answered. -/
theorem sipCalls_apart_ringTwiceAndAnswer :
    let ringing := [CallAction.signalEvent (Example.readings 0)
        (Example.activeCall "a" "call" .requested) true,
      .signalEvent (Example.readings 1) (Example.activeCall "b" "other" .requested) true]
    ∃ system, run CallSystem.step ringing (CallSystem.new Example.login) = some system ∧
      system.sipCalls = ["call".toList, "other".toList] ∧ system.sipCalls.Nodup ∧
      ∃ handled, (StateMachine.handleEvent callVirtuals (Example.reading 2)
          (Example.activeCall "a" "call" .confirmed) true system.stateHandlers system.xmpp).2.1 =
          handled ∧ handled ≠ system.stateHandlers ∧
        ∃ ace, system.TakenOnce (Example.reading 2) (Example.activeCall "a" "call" .confirmed) ace
          handled := by
  intro ringing
  have reached : run CallSystem.step ringing (CallSystem.new Example.login) = some _ := rfl
  have apart := sipCalls_apart reached
  have taken := apart.2 (.signalEvent (Example.readings 2)
    (Example.activeCall "a" "call" .confirmed) true) _ _ _ _ _ rfl rfl rfl
  exact ⟨_, reached, by decide, apart.1, _, rfl, by decide, _, taken.2⟩

end JnTapi
