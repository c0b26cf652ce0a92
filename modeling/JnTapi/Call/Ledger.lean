/-
This file proves that the call machine keeps a register of its calls.

The handlers in the machine are the live items and the notifications are the
log. Every step of the system changes this register only in the ways of a
register: a handler is added with `NewHandlerCreated` or `AddedHandler`, an
accepted event is notified with `IsYourEventHandled`, a time limit drops a
handler silently, and a dropped handler leaves with `RemovedHandler`. This needs
that no two calls have the same id, which holds as long as the generator of ids
has not wrapped.
-/

import JnTapi.Library.LifeCycle
import JnTapi.Call.Facts
import JnTapi.Call.System

namespace JnTapi

open Library

/-! ### The register of the calls -/

/-- A handler is shown by its state and its state data, and known by the id of its call. -/
def callScheme :
    Scheme CallHandler (CallStates × OnSipCallStateData) StateChangeReason Long CallType where
  view handler := (handler.state, handler.stateData)
  key view := view.2.callId
  tag view := view.2.callType
  opens reason := reason = .newHandlerCreated ∨ reason = .addedHandler
  updates reason := reason = .isYourEventHandled
  closes reason := reason = .removedHandler
  ended view := view.1 = .dropped
  lapses earlier handler := earlier.state ≠ .dropped ∧ handler.state = .dropped ∧
    ∃ reading xmpp, earlier.isStillExist reading xmpp =
      (true, handler, xmpp.release earlier.currentState.eventData)
  lapsesOnce := fun left right => right.1 left.2.1

/-- A notification as a report of the register. -/
def CallNotification.report (notification : CallNotification) :
    StateChangeReason × CallStates × OnSipCallStateData :=
  (notification.reason, notification.state, notification.stateData)

/-- The notifications given so far, as reports. -/
def callLog (xmpp : Xmpp) : List (StateChangeReason × CallStates × OnSipCallStateData) :=
  (callNotifications xmpp.effects).map CallNotification.report

theorem callLog_onStateChange (handler : CallHandler) (reason : StateChangeReason) (xmpp : Xmpp) :
    callLog (handler.onStateChange reason xmpp) =
      callLog xmpp ++ [(reason, callScheme.view handler)] := by
  simp [callLog, CallHandler.onStateChange, Xmpp.callStateChange, callNotifications,
    Effect.callNotification?, CallNotification.report, callScheme]

theorem callLog_unchanged {before after : Xmpp} (unchanged : before.CallsUnchanged after) :
    callLog after = callLog before := by
  rw [callLog, callLog, unchanged.notifications]

/-- The register of the handlers in the machine and the notifications given since the first so
many. -/
def callRegister (since : Nat) (handlers : List CallHandler) (xmpp : Xmpp) :
    Register CallHandler (CallStates × OnSipCallStateData) StateChangeReason :=
  ⟨handlers, (callLog xmpp).drop since⟩

theorem callRegister_onStateChange {since : Nat} {xmpp : Xmpp}
    (past : since ≤ (callLog xmpp).length) (handlers : List CallHandler) (handler : CallHandler)
    (reason : StateChangeReason) :
    callRegister since handlers (handler.onStateChange reason xmpp) =
      ⟨handlers, (callRegister since handlers xmpp).log ++ [(reason, callScheme.view handler)]⟩ := by
  rw [callRegister, callLog_onStateChange, List.drop_append_of_le_length past]
  rfl

/-- The register since the handlers were last removed all at once is consistent, and no call in
it was reported before; the ids of the calls that are to come are drawn, distinct and not
reported yet. -/
structure Ledger (since : Nat) (waiting : List Long) (handlers : List CallHandler)
    (xmpp : Xmpp) : Prop where
  consistent : Consistent callScheme (callRegister since handlers xmpp)
  sound : ∀ handler ∈ handlers, handler.Sound
  past : since ≤ (callLog xmpp).length
  afresh : ∀ handler ∈ handlers, ∀ report ∈ (callLog xmpp).take since,
    callScheme.key report.2 ≠ handler.callId
  reported : ∀ report ∈ callLog xmpp, xmpp.ids.Drawn (callScheme.key report.2)
  waitingDrawn : ∀ callId ∈ waiting, xmpp.ids.Drawn callId
  waitingDistinct : waiting.Nodup
  waitingUnreported : ∀ callId ∈ waiting, ∀ report ∈ callLog xmpp,
    callScheme.key report.2 ≠ callId

namespace Ledger

variable {since : Nat} {waiting : List Long} {handlers : List CallHandler} {xmpp : Xmpp}

theorem empty (login : LoginInfo) : Ledger 0 [] [] (Xmpp.new login) where
  consistent := Consistent.empty
  sound := fun _ member => absurd member List.not_mem_nil
  past := le_refl _
  afresh := fun _ member => absurd member List.not_mem_nil
  reported := fun _ member => absurd member List.not_mem_nil
  waitingDrawn := fun _ member => absurd member List.not_mem_nil
  waitingDistinct := List.nodup_nil
  waitingUnreported := fun _ member => absurd member List.not_mem_nil

theorem perm {other : List Long} (ledger : Ledger since waiting handlers xmpp)
    (same : waiting.Perm other) : Ledger since other handlers xmpp where
  consistent := ledger.consistent
  sound := ledger.sound
  past := ledger.past
  afresh := ledger.afresh
  reported := ledger.reported
  waitingDrawn := fun callId member => ledger.waitingDrawn callId (same.mem_iff.mpr member)
  waitingDistinct := same.nodup_iff.mp ledger.waitingDistinct
  waitingUnreported := fun callId member =>
    ledger.waitingUnreported callId (same.mem_iff.mpr member)

/-- A new register begins when the handlers are removed all at once. -/
theorem removed (ledger : Ledger since waiting handlers xmpp) :
    Ledger (callLog xmpp).length waiting [] xmpp where
  consistent := by
    rw [callRegister, List.drop_length]
    exact Consistent.empty
  sound := fun _ member => absurd member List.not_mem_nil
  past := le_refl _
  afresh := fun _ member => absurd member List.not_mem_nil
  reported := ledger.reported
  waitingDrawn := ledger.waitingDrawn
  waitingDistinct := ledger.waitingDistinct
  waitingUnreported := ledger.waitingUnreported

theorem unchanged {after : Xmpp} (ledger : Ledger since waiting handlers xmpp)
    (unchanged : xmpp.CallsUnchanged after) : Ledger since waiting handlers after := by
  have sameLog := callLog_unchanged unchanged
  have same : callRegister since handlers after = callRegister since handlers xmpp := by
    rw [callRegister, callRegister, sameLog]
  exact {
    consistent := same ▸ ledger.consistent
    sound := ledger.sound
    past := sameLog ▸ ledger.past
    afresh := sameLog ▸ ledger.afresh
    reported := sameLog ▸ fun report member => (ledger.reported report member).mono unchanged.draws
    waitingDrawn := fun callId member => (ledger.waitingDrawn callId member).mono unchanged.draws
    waitingDistinct := ledger.waitingDistinct
    waitingUnreported := sameLog ▸ ledger.waitingUnreported }

theorem quiet {after : Xmpp} (ledger : Ledger since waiting handlers xmpp)
    (quiet : xmpp.Quiet after) : Ledger since waiting handlers after :=
  ledger.unchanged quiet.callsUnchanged

/-- A newly drawn id may stand for a call that is to come. -/
theorem draw (ledger : Ledger since waiting handlers xmpp) (bound : xmpp.ids.draws + 1 < 2 ^ 32) :
    Ledger since (xmpp.getUniqueId.1 :: waiting) handlers xmpp.getUniqueId.2 := by
  have later := ledger.quiet xmpp.quiet_getUniqueId
  exact {
    consistent := later.consistent
    sound := later.sound
    past := later.past
    afresh := later.afresh
    reported := later.reported
    waitingDrawn := fun callId member => by
      rcases List.mem_cons.mp member with rfl | member
      · exact UniqueId.drawn_getNextId xmpp.ids
      · exact later.waitingDrawn callId member
    waitingDistinct := by
      refine List.nodup_cons.mpr ⟨fun member => ?_, ledger.waitingDistinct⟩
      exact UniqueId.getNextId_fresh (ledger.waitingDrawn _ member) bound rfl
    waitingUnreported := fun callId member report reported => by
      rcases List.mem_cons.mp member with rfl | member
      · exact (UniqueId.getNextId_fresh (ledger.reported report reported) bound).symm
      · exact ledger.waitingUnreported callId member report reported }

/-- What a notification adds to the log comes after the past. -/
theorem take_onStateChange (ledger : Ledger since waiting handlers xmpp) (handler : CallHandler)
    (reason : StateChangeReason) :
    (callLog (handler.onStateChange reason xmpp)).take since = (callLog xmpp).take since := by
  rw [callLog_onStateChange, List.take_append_of_le_length ledger.past]

theorem past_onStateChange (ledger : Ledger since waiting handlers xmpp) (handler : CallHandler)
    (reason : StateChangeReason) :
    since ≤ (callLog (handler.onStateChange reason xmpp)).length := by
  rw [callLog_onStateChange, List.length_append]
  exact ledger.past.trans (Nat.le_add_right _ _)

/-- A handler is added for the first of the calls that are to come. -/
theorem opened {handler : CallHandler}
    (ledger : Ledger since (handler.callId :: waiting) handlers xmpp)
    (sound : handler.Sound) {reason : StateChangeReason} (opens : callScheme.opens reason) :
    Ledger since waiting (handlers ++ [handler]) (handler.onStateChange reason xmpp) := by
  have sameLog := callLog_onStateChange handler reason xmpp
  have unreported := ledger.waitingUnreported handler.callId List.mem_cons_self
  have distinct := List.nodup_cons.mp ledger.waitingDistinct
  exact {
    consistent := by
      rw [callRegister_onStateChange ledger.past]
      exact ledger.consistent.opened handler reason opens fun report recent =>
        unreported report (List.mem_of_mem_drop recent)
    sound := fun other member => by
      rcases List.mem_append.mp member with earlier | last
      · exact ledger.sound other earlier
      · rw [List.mem_singleton.mp last]
        exact sound
    past := ledger.past_onStateChange handler reason
    afresh := fun other member report old => by
      rw [ledger.take_onStateChange] at old
      rcases List.mem_append.mp member with earlier | last
      · exact ledger.afresh other earlier report old
      · rw [List.mem_singleton.mp last]
        exact unreported report (List.mem_of_mem_take old)
    reported := fun report member => by
      rw [sameLog] at member
      rcases List.mem_append.mp member with earlier | last
      · exact ledger.reported report earlier
      · rw [List.mem_singleton.mp last]
        exact ledger.waitingDrawn handler.callId List.mem_cons_self
    waitingDrawn := fun callId member =>
      ledger.waitingDrawn callId (List.mem_cons_of_mem _ member)
    waitingDistinct := distinct.2
    waitingUnreported := fun callId member report reported => by
      rw [sameLog] at reported
      rcases List.mem_append.mp reported with earlier | last
      · exact ledger.waitingUnreported callId (List.mem_cons_of_mem _ member) report earlier
      · rw [List.mem_singleton.mp last]
        rintro rfl
        exact distinct.1 member }

/-- The id of a handler in the machine has been reported. -/
theorem callId_reported (ledger : Ledger since waiting handlers xmpp) {handler : CallHandler}
    (member : handler ∈ handlers) :
    ∃ report ∈ callLog xmpp, callScheme.key report.2 = handler.callId := by
  obtain ⟨report, recent, same⟩ := ledger.consistent.reported member
  exact ⟨report, List.mem_of_mem_drop recent, same⟩

/-- A handler is replaced by what it has become, and a report of it may be added. -/
theorem replaced {before after : List CallHandler} {handler next : CallHandler} {later : Xmpp}
    (ledger : Ledger since waiting (before ++ handler :: after) xmpp)
    (keeps : handler.Keeps next) (ids : xmpp.ids = later.ids)
    (consistent : Consistent callScheme (callRegister since (before ++ next :: after) later))
    (log : ∃ more, callLog later = callLog xmpp ++ more ∧
      ∀ report ∈ more, callScheme.key report.2 = handler.callId) :
    Ledger since waiting (before ++ next :: after) later := by
  have member : handler ∈ before ++ handler :: after :=
    List.mem_append_right _ List.mem_cons_self
  obtain ⟨-, sameId, -⟩ := keeps (ledger.sound handler member)
  obtain ⟨original, reported, originalKey⟩ := ledger.callId_reported member
  obtain ⟨more, split, keys⟩ := log
  exact {
    consistent := consistent
    sound := fun other present => by
      rcases mem_replaced present with rfl | rest
      · exact (keeps (ledger.sound handler member)).1
      · exact ledger.sound other (mem_original rest)
    past := by
      rw [split, List.length_append]
      exact ledger.past.trans (Nat.le_add_right _ _)
    afresh := fun other present report old => by
      rw [split, List.take_append_of_le_length ledger.past] at old
      rcases mem_replaced present with rfl | rest
      · rw [sameId]
        exact ledger.afresh handler member report old
      · exact ledger.afresh other (mem_original rest) report old
    reported := fun report present => by
      rw [split] at present
      rw [← ids]
      rcases List.mem_append.mp present with earlier | last
      · exact ledger.reported report earlier
      · rw [keys report last, ← originalKey]
        exact ledger.reported original reported
    waitingDrawn := fun callId inside => ids ▸ ledger.waitingDrawn callId inside
    waitingDistinct := ledger.waitingDistinct
    waitingUnreported := fun callId inside report present => by
      rw [split] at present
      rcases List.mem_append.mp present with earlier | last
      · exact ledger.waitingUnreported callId inside report earlier
      · rw [keys report last, ← originalKey]
        exact ledger.waitingUnreported callId inside original reported }

/-- A handler has accepted an event and its state is notified. -/
theorem updated {before after : List CallHandler} {handler next : CallHandler}
    (ledger : Ledger since waiting (before ++ handler :: after) xmpp)
    (keeps : handler.Keeps next) :
    Ledger since waiting (before ++ next :: after)
      (next.onStateChange .isYourEventHandled xmpp) := by
  have member : handler ∈ before ++ handler :: after :=
    List.mem_append_right _ List.mem_cons_self
  obtain ⟨-, sameId, sameType⟩ := keeps (ledger.sound handler member)
  refine ledger.replaced keeps rfl ?_ ⟨_, callLog_onStateChange _ _ _, fun report last => ?_⟩
  · rw [callRegister_onStateChange ledger.past]
    exact ledger.consistent.updated next .isYourEventHandled rfl sameId sameType
  · rw [List.mem_singleton.mp last]
    exact sameId

/-- A handler has reached a time limit. -/
theorem lapsed {before after : List CallHandler} {handler next : CallHandler}
    (ledger : Ledger since waiting (before ++ handler :: after) xmpp)
    (keeps : handler.Keeps next) (lapses : callScheme.lapses handler next) :
    Ledger since waiting (before ++ next :: after) xmpp := by
  have member : handler ∈ before ++ handler :: after :=
    List.mem_append_right _ List.mem_cons_self
  obtain ⟨-, sameId, sameType⟩ := keeps (ledger.sound handler member)
  exact ledger.replaced keeps rfl (ledger.consistent.lapsed next lapses sameId sameType)
    ⟨[], (List.append_nil _).symm, fun _ none => absurd none List.not_mem_nil⟩

/-- A dropped handler is removed and its removal is notified. -/
theorem closed {before after : List CallHandler} {handler : CallHandler}
    (ledger : Ledger since waiting (before ++ handler :: after) xmpp)
    (dropped : handler.state = .dropped) :
    Ledger since waiting (before ++ after) (handler.onStateChange .removedHandler xmpp) := by
  have member : handler ∈ before ++ handler :: after :=
    List.mem_append_right _ List.mem_cons_self
  obtain ⟨original, reported, originalKey⟩ := ledger.callId_reported member
  have sameLog := callLog_onStateChange handler .removedHandler xmpp
  exact {
    consistent := by
      rw [callRegister_onStateChange ledger.past]
      exact ledger.consistent.closed .removedHandler rfl dropped
    sound := fun other rest => ledger.sound other (mem_original rest)
    past := ledger.past_onStateChange handler .removedHandler
    afresh := fun other rest report old => by
      rw [ledger.take_onStateChange] at old
      exact ledger.afresh other (mem_original rest) report old
    reported := fun report present => by
      rw [sameLog] at present
      rcases List.mem_append.mp present with earlier | last
      · exact ledger.reported report earlier
      · rw [List.mem_singleton.mp last]
        show xmpp.ids.Drawn handler.callId
        rw [← originalKey]
        exact ledger.reported original reported
    waitingDrawn := ledger.waitingDrawn
    waitingDistinct := ledger.waitingDistinct
    waitingUnreported := fun callId inside report present => by
      rw [sameLog] at present
      rcases List.mem_append.mp present with earlier | last
      · exact ledger.waitingUnreported callId inside report earlier
      · rw [List.mem_singleton.mp last]
        show handler.callId ≠ callId
        rw [← originalKey]
        exact ledger.waitingUnreported callId inside original reported }

/-! ### The functions of the machine -/

/-- The existence check drops handlers silently and removes those that are dropped. -/
theorem checkStateHandlersExist (ledger : Ledger since waiting handlers xmpp) (check : Nat → Reading) :
    Ledger since waiting (StateMachine.checkStateHandlersExist callVirtuals check handlers xmpp).1
      (StateMachine.checkStateHandlersExist callVirtuals check handlers xmpp).2 := by
  have checked := CallHandler.checkStateHandlersExist_rule
    (fun done rest xmpp => Ledger since waiting (done ++ rest) xmpp) ?stays ?lapses ?removed
    check handlers xmpp ledger
  · rw [List.append_nil] at checked
    exact checked
  case stays =>
    intro done handler rest xmpp before alive
    rw [List.append_assoc, List.singleton_append]
    exact before
  case lapses =>
    intro done handler rest xmpp reading before alive lapsed
    rw [List.append_assoc, List.singleton_append]
    have later := before.lapsed (CallHandler.keeps_timedOut reading handler)
      ⟨alive, rfl, reading, xmpp, lapsed⟩
    exact later.quiet (Xmpp.quiet_release _ xmpp)
  case removed =>
    intro done handler rest xmpp before dropped
    exact (before.closed dropped).quiet (Xmpp.quiet_release _ _)

/-- Offering an event keeps the ledger: a handler changes or a new one is added. -/
theorem handleEvent (ledger : Ledger since waiting handlers xmpp) (reading : Reading)
    (event : XmppEvent) (deleteEventData : Bool)
    (bound : (StateMachine.handleEvent callVirtuals reading event deleteEventData handlers
      xmpp).2.2.ids.draws < 2 ^ 32 - 1) :
    Ledger since waiting
      (StateMachine.handleEvent callVirtuals reading event deleteEventData handlers xmpp).2.1
      (StateMachine.handleEvent callVirtuals reading event deleteEventData handlers xmpp).2.2 := by
  rcases CallHandler.handleEvent_cases reading event deleteEventData handlers xmpp with
    ⟨before, handler, after, next, nextXmpp, rfl, -, accepts, result⟩ |
    ⟨-, handler, -, spec, result⟩ | ⟨-, -, result⟩
  · have continues := CallHandler.continues_isYourEvent reading handler event xmpp
    rw [accepts] at continues
    rw [result]
    exact (ledger.quiet continues.2).updated continues.1
  · rw [result] at bound ⊢
    have small : xmpp.ids.draws + 1 < 2 ^ 32 - 1 := bound
    obtain ⟨sound, same⟩ := spec ((UniqueId.drawn_getNextId xmpp.ids).ne_minus_one small)
    have drawn := ledger.draw (by omega)
    rw [← same] at drawn
    exact drawn.opened sound (Or.inl rfl)
  · rw [result]
    show Ledger since waiting handlers (if deleteEventData then xmpp.deleteEvent event else xmpp)
    split_ifs
    · exact ledger.quiet (Xmpp.quiet_deleteEvent event xmpp)
    · exact ledger

/-- `SignalEvent` keeps the ledger. -/
theorem signalEvent (ledger : Ledger since waiting handlers xmpp) (readings : Readings)
    (event : XmppEvent) (deleteEventData : Bool)
    (bound : (StateMachine.signalEvent callVirtuals readings event deleteEventData handlers
      xmpp).2.2.ids.draws < 2 ^ 32 - 1) :
    Ledger since waiting
      (StateMachine.signalEvent callVirtuals readings event deleteEventData handlers xmpp).2.1
      (StateMachine.signalEvent callVirtuals readings event deleteEventData handlers
        xmpp).2.2 := by
  refine Ledger.checkStateHandlersExist (ledger.handleEvent readings.offer event deleteEventData ?_)
    readings.check
  rw [StateMachine.signalEvent, CallHandler.ids_checkStateHandlersExist] at bound
  exact bound

/-- The handling of a request adds its handler for the call that was to come. -/
theorem handleRequest {request : CallHandler}
    (ledger : Ledger since (request.callId :: waiting) handlers xmpp) (new : request.IsNewMakeCall)
    (sound : request.Sound) (readings : StateMachineBase.RequestReadings) :
    Ledger since waiting
      (StateMachineBase.handleRequest callVirtuals readings request handlers xmpp).1
      (StateMachineBase.handleRequest callVirtuals readings request handlers xmpp).2 := by
  obtain ⟨-, -, handler, later, -, -, keeps, quiet, result⟩ :=
    CallHandler.handleRequest_new readings new handlers xmpp
  obtain ⟨handlerSound, sameId, -⟩ := keeps sound
  rw [result]
  have quietly := ledger.quiet quiet
  rw [← sameId] at quietly
  exact quietly.opened handlerSound (Or.inr rfl)

/-- Polling the handlers keeps the ledger: no call handler reports a change. -/
theorem pollStateHandlers (ledger : Ledger since waiting handlers xmpp) (readings : Readings) :
    Ledger since waiting (StateMachine.pollStateHandlers callVirtuals readings handlers xmpp).1
      (StateMachine.pollStateHandlers callVirtuals readings handlers xmpp).2 := by
  rw [CallHandler.pollStateHandlers_eq]
  exact ledger.checkStateHandlersExist readings.check

end Ledger

end JnTapi
