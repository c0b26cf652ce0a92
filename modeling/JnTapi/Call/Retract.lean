/-
This file proves which handler a retracted call reaches.

The server retracts the branch of a call by its XMPP id. A handler that has a
branch with this id takes it. An outgoing or an incoming handler refuses any other
retract; the handler of a call that the program makes takes it as well and deletes
it. A retract therefore reaches the handler of its branch exactly when no handler
of a call that the program makes stands before it in the list.
-/

import JnTapi.Call.History

namespace JnTapi

open Library

namespace CallHandler

/-- The handler is that of a call that the program makes. -/
def IsMakeCall (handler : CallHandler) : Prop := ∃ make, handler.kind = .makeCall make

/-- The retracted branch is gone, or the whole call is. -/
def Retracts (id : TString) (handler : CallHandler) : Prop :=
  handler.branches.hasId id = false ∨ handler.state = .dropped

/-- What the kinds that count their branches do when one of them is retracted. -/
theorem retracts_checkDroppedCall (reading : Reading) {handler : CallHandler} {event : XmppEvent}
    (xmpp : Xmpp) (has : handler.branches.hasId event.id = true) :
    ∃ next nextXmpp,
      (match handler.branches.checkDroppedCall handler.stateData event.id with
      | (true, callData, branches) =>
        (true, assignNewState reading .dropped (some event)
          { handler.withStateData callData with branches := branches } xmpp)
      | (false, callData, branches) =>
        (true, { handler.withStateData callData with branches := branches },
          xmpp.deleteEvent event)) = (true, next, nextXmpp) ∧ next.Retracts event.id := by
  rcases @CallBranches.checkDroppedCall_cases handler.stateData _ _ has with
    ⟨first, -, result⟩ | ⟨-, result⟩
  · rw [result]
    exact ⟨_, _, rfl, Or.inl (CallBranches.hasId_removeById event.id handler.branches)⟩
  · rw [result]
    exact ⟨_, _, rfl, Or.inr rfl⟩

/-- The handler that has the branch accepts the retract. -/
theorem isYourEvent_retract (reading : Reading) {handler : CallHandler} {event : XmppEvent}
    (xmpp : Xmpp) (retract : event.data = .retractCall)
    (has : handler.branches.hasId event.id = true) :
    ∃ next nextXmpp, handler.isYourEvent reading event xmpp = (true, next, nextXmpp) ∧
      next.Retracts event.id := by
  have counted := retracts_checkDroppedCall reading xmpp has
  unfold isYourEvent
  cases handler.kind with
  | outgoing =>
    simp only [outgoingIsYourEvent, retract, has, Bool.not_true, Bool.false_eq_true, if_false]
    exact ⟨_, _, rfl, Or.inr rfl⟩
  | incoming =>
    simp only [incomingIsYourEvent, retract, has, Bool.not_true, Bool.false_eq_true, if_false]
    exact counted
  | makeCall make =>
    simp only [makeCallIsYourEvent, retract, has, if_true]
    exact counted

/-- Of the handlers without the branch, those of the calls that the program makes accept the
retract. -/
theorem isYourEvent_foreign_retract (reading : Reading) {handler : CallHandler}
    {event : XmppEvent} (xmpp : Xmpp) (retract : event.data = .retractCall)
    (foreign : handler.branches.hasId event.id = false) :
    (handler.isYourEvent reading event xmpp).1 = false ↔ ¬ handler.IsMakeCall := by
  unfold isYourEvent IsMakeCall
  cases kind : handler.kind with
  | outgoing => simp [outgoingIsYourEvent, retract, foreign]
  | incoming => simp [incomingIsYourEvent, retract, foreign]
  | makeCall make =>
    simp only [makeCallIsYourEvent, retract, foreign, Bool.false_eq_true, if_false]
    split_ifs <;> simp

end CallHandler

/-- `SignalEvent` hands the event to this handler: those before it refuse the event, it accepts
and the retracted branch or the call is gone, and nothing else changes before the existence
check. -/
def RetractHanded (readings : Readings) (event : XmppEvent) (deleteEventData : Bool)
    (before : List CallHandler) (handler : CallHandler) (after : List CallHandler)
    (xmpp : Xmpp) : Prop :=
  ∃ next nextXmpp, handler.isYourEvent readings.offer event xmpp = (true, next, nextXmpp) ∧
    next.Retracts event.id ∧
    (∀ earlier ∈ before, (earlier.isYourEvent readings.offer event xmpp).1 = false) ∧
    StateMachine.signalEvent callVirtuals readings event deleteEventData
        (before ++ handler :: after) xmpp =
      (true, StateMachine.checkStateHandlersExist callVirtuals readings.check
        (before ++ next :: after) (next.onStateChange .isYourEventHandled nextXmpp))

/-- A retract that belongs to one handler only is handed to this handler exactly when none of the
handlers before it is that of a call that the program makes. -/
theorem retractHanded_iff {event : XmppEvent} {before after : List CallHandler}
    {handler : CallHandler} (readings : Readings) (deleteEventData : Bool) (xmpp : Xmpp)
    (retract : event.data = .retractCall) (has : handler.branches.hasId event.id = true)
    (only : ∀ other ∈ before ++ after, other.branches.hasId event.id = false) :
    RetractHanded readings event deleteEventData before handler after xmpp ↔
      ∀ earlier ∈ before, ¬ earlier.IsMakeCall := by
  have refuses : ∀ earlier ∈ before,
      ((earlier.isYourEvent readings.offer event xmpp).1 = false ↔ ¬ earlier.IsMakeCall) := by
    intro earlier member
    exact CallHandler.isYourEvent_foreign_retract readings.offer xmpp retract
      (only earlier (List.mem_append_left _ member))
  constructor
  · rintro ⟨-, -, -, -, refusing, -⟩ earlier member
    exact (refuses earlier member).mp (refusing earlier member)
  · intro none
    have refusing : ∀ earlier ∈ before,
        (earlier.isYourEvent readings.offer event xmpp).1 = false :=
      fun earlier member => (refuses earlier member).mpr (none earlier member)
    obtain ⟨next, nextXmpp, accepts, retracts⟩ :=
      CallHandler.isYourEvent_retract readings.offer xmpp retract has
    refine ⟨next, nextXmpp, accepts, retracts, refusing, ?_⟩
    exact StateMachine.signalEvent_accepted CallHandler.refusesUnchanged_callVirtuals
      deleteEventData refusing accepts

/-- While the program makes a call, somebody else calls. -/
def Example.makeAndRing : List CallAction :=
  [.drawCallId "555".toList, .addCallHandler 0 (Example.reading 0)] ++ Example.pollOneRequest 0 ++
    [.signalEvent (Example.readings 5) (Example.activeCall "a" "call" .requested) false]

/-- The other party gives up, and the call goes on ringing: the retract is taken by the handler
of the call that the program makes. -/
theorem retractHanded_makeAndRing :
    ¬ ∀ login actions (system : CallSystem),
      run CallSystem.step actions (CallSystem.new login) = some system →
      ∀ before handler after, system.stateHandlers = before ++ handler :: after →
      ∀ event : XmppEvent, event.data = .retractCall → handler.branches.hasId event.id = true →
        (∀ other ∈ before ++ after, other.branches.hasId event.id = false) →
        ∀ readings, RetractHanded readings event false before handler after system.xmpp := by
  intro handed
  have reached : run CallSystem.step Example.makeAndRing (CallSystem.new Example.login) =
    some _ := rfl
  have two := handed Example.login Example.makeAndRing _ reached [_] _ [] rfl (Example.retract "a")
    rfl (by decide) (by decide) (Example.readings 6)
  obtain ⟨-, -, -, -, refusing, -⟩ := two
  exact absurd (refusing _ List.mem_cons_self) (by decide)

/-- The same two calls, the other way round -/
def Example.ringAndMake : List CallAction :=
  [.signalEvent (Example.readings 0) (Example.activeCall "a" "call" .requested) false,
    .drawCallId "555".toList, .addCallHandler 0 (Example.reading 5)] ++ Example.pollOneRequest 5

/-- With the handlers in the other order the retract ends the incoming call. -/
theorem retractHanded_ringAndMake :
    ∃ system, run CallSystem.step Example.ringAndMake (CallSystem.new Example.login) =
        some system ∧
      ∃ handler other : CallHandler, system.stateHandlers = [handler, other] ∧
        other.IsMakeCall ∧
        RetractHanded (Example.readings 6) (Example.retract "a") false [] handler [other]
          system.xmpp := by
  have reached : run CallSystem.step Example.ringAndMake (CallSystem.new Example.login) =
    some _ := rfl
  refine ⟨_, reached, _, _, rfl, ⟨_, rfl⟩, ?_⟩
  exact (retractHanded_iff (Example.readings 6) false _ rfl (by decide) (by decide)).mpr
    fun _ member => absurd member List.not_mem_nil

end JnTapi
