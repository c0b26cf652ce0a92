/-
This file proves what the observers of the call machine are told about a call.

The notifications of one call id are first its creation or its addition, then
the events that its handler has accepted, and last its removal. While the call is
alive, its last notification shows its handler as it is, unless a time limit has
just dropped it. An event that drops a call is followed by the removal in the
same `SignalEvent`.
-/

import JnTapi.Call.Coherent

namespace JnTapi

open Library

/-! ### What is said of one call -/

/-- The notifications of one call, in order. -/
def callNotificationsOf (callId : Long) (effects : List Effect) : List CallNotification :=
  (callNotifications effects).filter fun notification => notification.stateData.callId = callId

/-- First the call is created or added, then its handler accepts events. -/
def Announced (notifications : List CallNotification) : Prop :=
  ∃ first middle, notifications = first :: middle ∧
    (first.reason = .newHandlerCreated ∨ first.reason = .addedHandler) ∧
    ∀ notification ∈ middle, notification.reason = .isYourEventHandled

/-- The call has been announced and then removed as a dropped one. -/
def Ended (notifications : List CallNotification) : Prop :=
  ∃ earlier last, notifications = earlier ++ [last] ∧ Announced earlier ∧
    last.reason = .removedHandler ∧ last.state = .dropped

/-- A time limit has dropped the handler since the notification, and nothing else has changed. -/
def JustTimedOut (notification : CallNotification) (handler : CallHandler) : Prop :=
  ∃ (earlier : CallHandler) (reading : Reading) (xmpp nextXmpp : Xmpp),
    earlier.state = notification.state ∧
    earlier.stateData = notification.stateData ∧ earlier.state ≠ .dropped ∧
    handler.state = .dropped ∧ earlier.isStillExist reading xmpp = (true, handler, nextXmpp)

theorem reportsOf_callLog (xmpp : Xmpp) (callId : Long) :
    reportsOf callScheme callId (callLog xmpp) =
      (callNotificationsOf callId xmpp.effects).map CallNotification.report := by
  unfold reportsOf callNotificationsOf callLog
  rw [List.filter_map]
  rfl

/-- The running calls of the register are the announced ones. -/
theorem announced_of_running {notifications : List CallNotification}
    (running : Running callScheme (notifications.map CallNotification.report)) :
    Announced notifications := by
  obtain ⟨first, middle, split, opens, between⟩ := running
  obtain ⟨head, tail, rfl, rfl, rfl⟩ := List.map_eq_cons_iff.mp split
  exact ⟨head, tail, rfl, opens, fun notification member =>
    between _ (List.mem_map.mpr ⟨notification, member, rfl⟩)⟩

/-- The finished calls of the register are the ended ones. -/
theorem ended_of_finished {notifications : List CallNotification}
    (finished : Finished callScheme (notifications.map CallNotification.report)) :
    Ended notifications := by
  obtain ⟨earlier, last, split, running, closes, ended⟩ := finished
  obtain ⟨before, after, rfl, rfl, final⟩ := List.map_eq_append_iff.mp split
  obtain ⟨only, rfl, rfl⟩ := List.map_eq_singleton_iff.mp final
  exact ⟨before, only, rfl, announced_of_running running, closes, ended⟩

namespace Ledger

variable {since : Nat} {waiting : List Long} {handlers : List CallHandler} {xmpp : Xmpp}

/-- All the notifications of a call in the machine are in the register. -/
theorem reportsOf_live (ledger : Ledger since waiting handlers xmpp) {handler : CallHandler}
    (member : handler ∈ handlers) :
    reportsOf callScheme handler.callId (callRegister since handlers xmpp).log =
      (callNotificationsOf handler.callId xmpp.effects).map CallNotification.report := by
  have none : reportsOf callScheme handler.callId ((callLog xmpp).take since) = [] := by
    refine List.filter_eq_nil_iff.mpr fun report old same => ?_
    exact ledger.afresh handler member report old (of_decide_eq_true same)
  rw [← reportsOf_callLog]
  conv_rhs => rw [← List.take_append_drop since (callLog xmpp)]
  rw [reportsOf, reportsOf, List.filter_append]
  rw [reportsOf] at none
  rw [none, List.nil_append]
  rfl

theorem announced (ledger : Ledger since waiting handlers xmpp) {handler : CallHandler}
    (member : handler ∈ handlers) : Announced (callNotificationsOf handler.callId xmpp.effects) := by
  refine announced_of_running ?_
  rw [← ledger.reportsOf_live member]
  exact ledger.consistent.running handler member

theorem ended (ledger : Ledger 0 waiting handlers xmpp) {callId : Long}
    (absent : ∀ handler ∈ handlers, handler.callId ≠ callId) :
    callNotificationsOf callId xmpp.effects = [] ∨ Ended (callNotificationsOf callId xmpp.effects) := by
  rcases ledger.consistent.finished callId absent with none | finished
  · rw [callRegister, List.drop_zero, reportsOf_callLog, List.map_eq_nil_iff] at none
    exact Or.inl none
  · rw [callRegister, List.drop_zero, reportsOf_callLog] at finished
    exact Or.inr (ended_of_finished finished)

theorem sameType (ledger : Ledger 0 waiting handlers xmpp) {first second : CallNotification}
    (left : first ∈ callNotifications xmpp.effects) (right : second ∈ callNotifications xmpp.effects)
    (same : first.stateData.callId = second.stateData.callId) :
    first.stateData.callType = second.stateData.callType :=
  ledger.consistent.tagged first.report (List.mem_map.mpr ⟨first, left, rfl⟩) second.report
    (List.mem_map.mpr ⟨second, right, rfl⟩) same

/-- The last notification of a call in the machine shows its handler. -/
theorem shown (ledger : Ledger since waiting handlers xmpp) {handler : CallHandler}
    (member : handler ∈ handlers) :
    ∃ notification, (callNotificationsOf handler.callId xmpp.effects).getLast? = some notification ∧
      (notification.state = handler.state ∧ notification.stateData = handler.stateData ∨
        JustTimedOut notification handler) := by
  obtain ⟨reason, view, last, shows⟩ := ledger.consistent.shown handler member
  have lastReport : (reportsOf callScheme handler.callId
    (callRegister since handlers xmpp).log).getLast? = some (reason, view) := last
  rw [ledger.reportsOf_live member, List.getLast?_map, Option.map_eq_some_iff] at lastReport
  obtain ⟨notification, final, report⟩ := lastReport
  obtain rfl : notification.reason = reason := congrArg Prod.fst report
  obtain rfl : (notification.state, notification.stateData) = view := congrArg Prod.snd report
  refine ⟨notification, final, ?_⟩
  rcases shows with same | ⟨earlier, same, alive, dropped, reading, object, outcome⟩
  · exact Or.inl ⟨congrArg Prod.fst same, congrArg Prod.snd same⟩
  · exact Or.inr ⟨earlier, reading, object, _, congrArg Prod.fst same, congrArg Prod.snd same,
      alive, dropped, outcome⟩

end Ledger

/-! ### What one step says -/

/-- The notification of a removal -/
def CallHandler.removal (handler : CallHandler) : CallNotification :=
  ⟨.removedHandler, handler.state, handler.stateData⟩

/-- The notifications that the existence check of these handlers gives -/
def removals (handlers : List CallHandler) : List CallNotification :=
  (handlers.filter fun handler => handler.state = .dropped).map CallHandler.removal

theorem callNotifications_onStateChange (handler : CallHandler) (reason : StateChangeReason)
    (xmpp : Xmpp) :
    callNotifications (handler.onStateChange reason xmpp).effects =
      callNotifications xmpp.effects ++ [⟨reason, handler.state, handler.stateData⟩] := by
  simp [CallHandler.onStateChange, Xmpp.callStateChange, callNotifications,
    Effect.callNotification?]

theorem removals_cons_alive {handler : CallHandler} (alive : handler.state ≠ .dropped)
    (rest : List CallHandler) : removals (handler :: rest) = removals rest := by
  simp [removals, alive]

theorem removals_cons_dropped {handler : CallHandler} (dropped : handler.state = .dropped)
    (rest : List CallHandler) : removals (handler :: rest) = handler.removal :: removals rest := by
  simp [removals, dropped]

/-- The existence check notifies the removal of the handlers that were dropped before it. -/
theorem callNotifications_check (check : Nat → Reading) (handlers : List CallHandler)
    (xmpp : Xmpp) :
    callNotifications
        (StateMachine.checkStateHandlersExist callVirtuals check handlers xmpp).2.effects =
      callNotifications xmpp.effects ++ removals handlers := by
  have checked := CallHandler.checkStateHandlersExist_rule
    (fun _ rest object => callNotifications object.effects ++ removals rest =
      callNotifications xmpp.effects ++ removals handlers) ?stays ?lapses ?removed check handlers
    xmpp rfl
  · rw [← checked]
    exact (List.append_nil _).symm
  case stays =>
    intro done handler rest object before alive
    rw [← before, removals_cons_alive alive]
  case lapses =>
    intro done handler rest object reading before alive lapsed
    rw [(Xmpp.quiet_release _ object).callNotifications_eq, ← before, removals_cons_alive alive]
  case removed =>
    intro done handler rest object before dropped
    rw [(Xmpp.quiet_release _ _).callNotifications_eq, callNotifications_onStateChange, ← before,
      removals_cons_dropped dropped, List.append_assoc]
    rfl

/-- What `SignalEvent` notifies: the handler that accepted the event or the one it created, if
there is one, and then the removal of the handlers that are dropped. -/
theorem callNotifications_signal (readings : Readings) (event : XmppEvent)
    (deleteEventData : Bool) (handlers : List CallHandler) (xmpp : Xmpp) :
    ∃ changed left, (changed = [] ∨
        (∃ handler : CallHandler, changed = [⟨.newHandlerCreated, handler.state, handler.stateData⟩]) ∨
        ∃ handler ∈ left, changed = [⟨.isYourEventHandled, handler.state, handler.stateData⟩]) ∧
      callNotifications (StateMachine.signalEvent callVirtuals readings event deleteEventData
        handlers xmpp).2.2.effects =
        callNotifications xmpp.effects ++ (changed ++ removals left) := by
  rw [StateMachine.signalEvent]
  rcases CallHandler.handleEvent_cases readings.offer event deleteEventData handlers xmpp with
    ⟨before, handler, after, next, nextXmpp, rfl, -, accepts, result⟩ |
    ⟨-, handler, -, -, result⟩ | ⟨-, -, result⟩
  · have continues := CallHandler.continues_isYourEvent readings.offer handler event xmpp
    rw [accepts] at continues
    have quiet : xmpp.Quiet nextXmpp := continues.2
    refine ⟨[⟨.isYourEventHandled, next.state, next.stateData⟩], before ++ next :: after,
      Or.inr (Or.inr ⟨next, List.mem_append_right _ List.mem_cons_self, rfl⟩), ?_⟩
    rw [result, callNotifications_check, callNotifications_onStateChange,
      quiet.callNotifications_eq, List.append_assoc]
  · refine ⟨[⟨.newHandlerCreated, handler.state, handler.stateData⟩], handlers ++ [handler],
      Or.inr (Or.inl ⟨handler, rfl⟩), ?_⟩
    rw [result, callNotifications_check, callNotifications_onStateChange,
      xmpp.quiet_getUniqueId.callNotifications_eq, List.append_assoc]
  · refine ⟨[], handlers, Or.inl rfl, ?_⟩
    rw [result, callNotifications_check, List.nil_append]
    congr 1
    show callNotifications (if deleteEventData then xmpp.deleteEvent event else xmpp).effects = _
    split_ifs
    · exact (Xmpp.quiet_deleteEvent event xmpp).callNotifications_eq
    · rfl

/-- Each accepted event that leaves its call dropped is followed by the removal of the handler. -/
def DropFollowed (notifications : List CallNotification) : Prop :=
  ∀ earlier notification later, notifications = earlier ++ notification :: later →
    notification.reason = .isYourEventHandled → notification.state = .dropped →
    ∃ removal ∈ later, removal.reason = .removedHandler ∧ removal.state = .dropped ∧
      removal.stateData = notification.stateData

/-- Notifications among which there is no accepted event. -/
theorem dropFollowed_of_no_event {notifications : List CallNotification}
    (none : ∀ notification ∈ notifications, notification.reason ≠ .isYourEventHandled) :
    DropFollowed notifications := by
  rintro earlier notification later rfl handled -
  exact absurd handled (none notification (List.mem_append_right _ List.mem_cons_self))

theorem reason_of_mem_removals {handlers : List CallHandler} {notification : CallNotification}
    (member : notification ∈ removals handlers) : notification.reason = .removedHandler := by
  obtain ⟨handler, -, rfl⟩ := List.mem_map.mp member
  rfl

theorem no_event_of_removals (handlers : List CallHandler) :
    ∀ notification ∈ removals handlers, notification.reason ≠ .isYourEventHandled := by
  intro notification member handled
  rw [reason_of_mem_removals member] at handled
  cases handled

theorem dropFollowed_signal (readings : Readings) (event : XmppEvent) (deleteEventData : Bool)
    (handlers : List CallHandler) (xmpp : Xmpp) :
    ∃ new, callNotifications (StateMachine.signalEvent callVirtuals readings event deleteEventData
        handlers xmpp).2.2.effects = callNotifications xmpp.effects ++ new ∧ DropFollowed new := by
  obtain ⟨changed, left, which, result⟩ :=
    callNotifications_signal readings event deleteEventData handlers xmpp
  refine ⟨changed ++ removals left, result, ?_⟩
  rcases which with rfl | ⟨handler, rfl⟩ | ⟨handler, member, rfl⟩
  · exact dropFollowed_of_no_event (no_event_of_removals left)
  · refine dropFollowed_of_no_event fun notification inside => ?_
    rcases List.mem_cons.mp inside with rfl | removal
    · intro created
      cases created
    · exact no_event_of_removals left notification removal
  · intro earlier notification later split handled dropped
    cases earlier with
    | nil =>
      obtain ⟨rfl, rfl⟩ := List.cons.inj split
      refine ⟨handler.removal, ?_, rfl, dropped, rfl⟩
      exact List.mem_map.mpr ⟨handler, List.mem_filter.mpr ⟨member, decide_eq_true dropped⟩, rfl⟩
    | cons first earlier =>
      have tails : removals left = earlier ++ notification :: later := (List.cons.inj split).2
      have inside : notification ∈ removals left := by
        rw [tails]
        exact List.mem_append_right _ List.mem_cons_self
      exact absurd handled (no_event_of_removals left notification inside)

/-- In one step of the system, an accepted event that leaves its call dropped is followed by the
removal of the handler. -/
theorem dropFollowed_step {system next : CallSystem} {action : CallAction}
    (stepped : system.step action = some next) :
    ∃ new, callNotifications next.xmpp.effects = callNotifications system.xmpp.effects ++ new ∧
      DropFollowed new := by
  have silent : ∀ {after : Xmpp}, system.xmpp.Quiet after →
      ∃ new, callNotifications after.effects = callNotifications system.xmpp.effects ++ new ∧
        DropFollowed new := by
    intro after quiet
    refine ⟨[], by rw [quiet.callNotifications_eq, List.append_nil], ?_⟩
    exact dropFollowed_of_no_event fun _ member => absurd member List.not_mem_nil
  have same := silent (Xmpp.Quiet.refl system.xmpp)
  cases action with
  | drawId =>
    obtain rfl := Option.some.inj stepped
    exact silent system.xmpp.quiet_getUniqueId
  | drawCallId phoneNumber =>
    obtain rfl := Option.some.inj stepped
    exact silent system.xmpp.quiet_getUniqueId
  | addCallHandler index reading =>
    obtain ⟨callId, phoneNumber, -, rfl⟩ := CallSystem.step_addCallHandler.mp stepped
    exact same
  | dropCallAsync callId =>
    obtain rfl := Option.some.inj stepped
    exact same
  | addEvent event =>
    obtain rfl := Option.some.inj stepped
    exact same
  | signalEvent readings event deleteEventData =>
    obtain ⟨-, rfl⟩ := CallSystem.step_signalEvent.mp stepped
    exact dropFollowed_signal readings event deleteEventData _ _
  | testRequests =>
    obtain ⟨-, rfl⟩ := CallSystem.step_testRequests.mp stepped
    exact same
  | takeRequests =>
    obtain ⟨-, rfl⟩ := CallSystem.step_takeRequests.mp stepped
    exact same
  | handleRequest readings =>
    obtain ⟨request, rest, -, rfl⟩ := CallSystem.step_handleRequest.mp stepped
    obtain ⟨later, quiet, result | ⟨handler, result⟩⟩ :=
      CallHandler.handleRequest_cases readings request system.stateHandlers system.xmpp
    · rw [← result] at quiet
      exact silent quiet
    · refine ⟨[⟨.addedHandler, handler.state, handler.stateData⟩], ?_, ?_⟩
      · show callNotifications (StateMachineBase.handleRequest callVirtuals readings request
          system.stateHandlers system.xmpp).2.effects = _
        rw [result, callNotifications_onStateChange, quiet.callNotifications_eq]
      · refine dropFollowed_of_no_event fun notification member => ?_
        rw [List.mem_singleton.mp member]
        intro added
        cases added
  | testEvents =>
    obtain ⟨-, rfl⟩ := CallSystem.step_testEvents.mp stepped
    exact same
  | takeEvents =>
    obtain ⟨-, rfl⟩ := CallSystem.step_takeEvents.mp stepped
    exact same
  | signalNext readings =>
    obtain ⟨event, rest, -, rfl⟩ := CallSystem.step_signalNext.mp stepped
    exact dropFollowed_signal readings event true _ _
  | pollHandlers readings =>
    obtain ⟨-, rfl⟩ := CallSystem.step_pollHandlers.mp stepped
    refine ⟨removals system.stateHandlers, ?_,
      dropFollowed_of_no_event (no_event_of_removals system.stateHandlers)⟩
    show callNotifications (StateMachine.pollStateHandlers callVirtuals readings
      system.stateHandlers system.xmpp).2.effects = _
    rw [CallHandler.pollStateHandlers_eq, callNotifications_check]
  | removeStateHandlers =>
    obtain ⟨-, rfl⟩ := CallSystem.step_removeStateHandlers.mp stepped
    exact silent (CallHandler.quiet_removeStateHandlers system.stateHandlers system.xmpp)

/-! ### Whole runs -/

/-- In every run that does not remove the handlers all at once, and draws fewer ids than fit in
the positive half of their type: a call in the machine has been announced and only its events
have been notified since; the notifications of any other call are none, or end with its removal
as a dropped call; the notifications of a call carry one type; the last notification of a call
in the machine shows its handler, unless a time limit has just dropped it; and an event that
drops a call is followed by the removal in the same step. -/
theorem callNotifications_lifeCycle {login : LoginInfo} {actions : List CallAction}
    {system : CallSystem} (reached : run CallSystem.step actions (CallSystem.new login) = some system)
    (noRemoval : ∀ action ∈ actions, action ≠ .removeStateHandlers)
    (bound : system.xmpp.ids.draws < 2 ^ 31) :
    (∀ handler ∈ system.stateHandlers,
      Announced (callNotificationsOf handler.callId system.xmpp.effects)) ∧
    (∀ callId, (∀ handler ∈ system.stateHandlers, handler.callId ≠ callId) →
      callNotificationsOf callId system.xmpp.effects = [] ∨
        Ended (callNotificationsOf callId system.xmpp.effects)) ∧
    (∀ first ∈ callNotifications system.xmpp.effects,
      ∀ second ∈ callNotifications system.xmpp.effects,
        first.stateData.callId = second.stateData.callId →
          first.stateData.callType = second.stateData.callType) ∧
    (∀ handler ∈ system.stateHandlers, ∃ notification,
      (callNotificationsOf handler.callId system.xmpp.effects).getLast? = some notification ∧
        (notification.state = handler.state ∧ notification.stateData = handler.stateData ∨
          JustTimedOut notification handler)) ∧
    ∀ first action rest before after, actions = first ++ action :: rest →
      run CallSystem.step first (CallSystem.new login) = some before →
      before.step action = some after →
      ∃ new, callNotifications after.xmpp.effects =
        callNotifications before.xmpp.effects ++ new ∧ DropFollowed new := by
  have noneRemoved : Along CallSystem.step CallSystem.NoneRemoved actions (CallSystem.new login) :=
    (along_of_forall noRemoval _).mono fun _ _ other same => absurd same other
  have ledger := (CallSystem.coherent_of_run reached noneRemoved (by omega)).ledger
  refine ⟨fun handler member => ledger.announced member, fun callId absent => ledger.ended absent,
    fun first left second right same => ledger.sameType left right same,
    fun handler member => ledger.shown member, ?_⟩
  intro first action rest before after _ _ stepped
  exact dropFollowed_step stepped

/-- An incoming call rings and is hung up. -/
def Example.ringAndHangUp : List CallAction :=
  [.signalEvent (Example.readings 0) (Example.activeCall "a" "call" .requested) false,
    .signalEvent (Example.readings 5) (Example.retract "a") false]

theorem callNotifications_ringAndHangUp :
    ∃ system, run CallSystem.step Example.ringAndHangUp (CallSystem.new Example.login) =
        some system ∧
      (callNotificationsOf 1 system.xmpp.effects).map CallNotification.reason =
        [.newHandlerCreated, .isYourEventHandled, .removedHandler] ∧
      (callNotificationsOf 1 system.xmpp.effects = [] ∨
        Ended (callNotificationsOf 1 system.xmpp.effects)) := by
  have reached : run CallSystem.step Example.ringAndHangUp (CallSystem.new Example.login) =
    some _ := rfl
  have noRemoval : ∀ action ∈ Example.ringAndHangUp, action ≠ .removeStateHandlers := by
    simp [Example.ringAndHangUp]
  refine ⟨_, reached, by decide, ?_⟩
  exact (callNotifications_lifeCycle reached noRemoval (by decide)).2.1 1 (by decide)

end JnTapi
