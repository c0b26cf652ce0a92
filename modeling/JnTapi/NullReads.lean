/-
This file proves when a stanza makes the program read through a null pointer.

The factories read a field that the form of a reply may lack, and write out the tag of
a message with an error, which a message of an unknown type does not have. The login
reads the date of an `XmppAuthEvent` from every reply to its request, and a plain
result is not one. Nothing else on the way of a stanza does so.
-/

import JnTapi.Stanzas
import JnTapi.OnSipXmpp
import JnTapi.Init.Session
import JnTapi.Call.Commands

namespace JnTapi

open XmppEventFactory

namespace Xmpp

/-- How often the program has read through a null pointer -/
def nullReads (xmpp : Xmpp) : Nat := xmpp.effects.count .nullRead

/-- Effects of other kinds add no such read. -/
theorem Emits.nullReads_eq {allowed : Effect → Prop} {before after : Xmpp}
    (emits : before.Emits allowed after) (other : ∀ effect, allowed effect → effect ≠ .nullRead) :
    after.nullReads = before.nullReads := by
  obtain ⟨more, split, all⟩ := emits
  have none : more.count .nullRead = 0 :=
    List.count_eq_zero.mpr fun member => other _ (all _ member) rfl
  rw [nullReads, nullReads, split, List.count_append, none, Nat.add_zero]

theorem nullReads_emit {effect : Effect} (other : effect ≠ .nullRead) (xmpp : Xmpp) :
    (xmpp.emit effect).nullReads = xmpp.nullReads :=
  (@Emits.emit (· ≠ .nullRead) effect other xmpp).nullReads_eq fun _ => id

@[simp] theorem nullReads_emit_nullRead (xmpp : Xmpp) :
    (xmpp.emit .nullRead).nullReads = xmpp.nullReads + 1 := by
  show (xmpp.effects ++ [Effect.nullRead]).count Effect.nullRead = _
  rw [List.count_append, List.count_singleton_self]
  rfl

@[simp] theorem nullReads_deleteEvent (event : XmppEvent) (xmpp : Xmpp) :
    (xmpp.deleteEvent event).nullReads = xmpp.nullReads :=
  nullReads_emit (by simp) xmpp

@[simp] theorem nullReads_release (held : Option XmppEvent) (xmpp : Xmpp) :
    (xmpp.release held).nullReads = xmpp.nullReads := by
  cases held with
  | none => rfl
  | some event => exact nullReads_deleteEvent event xmpp

@[simp] theorem nullReads_callStateChange (notification : CallNotification) (xmpp : Xmpp) :
    (xmpp.callStateChange notification).nullReads = xmpp.nullReads :=
  @nullReads_emit (.callStateChange notification) (by simp) xmpp

@[simp] theorem nullReads_initStateChange (notification : InitNotification) (xmpp : Xmpp) :
    (xmpp.initStateChange notification).nullReads = xmpp.nullReads :=
  @nullReads_emit (.initStateChange notification) (by simp) xmpp

end Xmpp

/-! ### The call machine -/

/-- The call machine reads through no null pointer. -/
theorem callVirtuals_nullReads :
    callVirtuals.Changes fun before after => after.nullReads = before.nullReads where
  refl _ := rfl
  trans left right := right.trans left
  isYourEvent reading handler event xmpp := by
    refine (@CallHandler.emits_isYourEvent event reading handler xmpp).nullReads_eq ?_
    rintro effect (⟨deleted | notified⟩ | terminate) <;> simp
  isStillExist reading handler xmpp := by
    show (handler.isStillExist reading xmpp).2.2.nullReads = xmpp.nullReads
    rcases CallHandler.isStillExist_cases reading handler xmpp with same | ⟨-, lapsed⟩
    · rw [same]
    · rw [lapsed]
      exact Xmpp.nullReads_release _ xmpp
  pollStateHandler _ _ _ := rfl
  unknownEvent reading event xmpp := by
    rcases CallHandler.unknownEvent_cases reading event xmpp with none | ⟨handler, created, -⟩
    · exact congrArg (fun outcome => outcome.2.nullReads) none
    · exact congrArg (fun outcome => outcome.2.nullReads) created
  onStateChange _ _ xmpp := Xmpp.nullReads_callStateChange _ xmpp
  preExecute reading handler xmpp := by
    show (handler.preExecute reading xmpp).2.2.nullReads = xmpp.nullReads
    unfold CallHandler.preExecute
    cases handler.kind with
    | makeCall make =>
      exact (Xmpp.nullReads_release _ _).trans
        (Xmpp.nullReads_emit (by simp) xmpp.getUniqueId.2)
    | _ => rfl
  deleteEvent event xmpp := Xmpp.nullReads_deleteEvent event xmpp
  deleteHandler _ xmpp := Xmpp.nullReads_release _ xmpp

/-! ### The login machine -/

namespace InitStateHandler

/-- The handler takes the event for the answer to its authorization, and the event has no date. -/
def TakesForAuth (event : XmppEvent) (handler : InitStateHandler) : Prop :=
  event.data = .iqResult ∧ event.isError = false ∧ handler.state = .authorizing ∧
    handler.contextId = event.context

/-- The handler reads through a null pointer exactly when it takes a plain result for the answer
to its authorization. -/
theorem nullReads_isYourEvent (reading : Reading) (handler : InitStateHandler)
    (event : XmppEvent) (xmpp : Xmpp) :
    (handler.isYourEvent reading event xmpp).2.2.nullReads = xmpp.nullReads ↔
      ¬ handler.TakesForAuth event := by
  obtain ⟨id, isError, context, data⟩ := event
  have anyState : (handler.anyState reading ⟨id, isError, context, data⟩ xmpp).2.2.nullReads =
      xmpp.nullReads := by
    unfold InitStateHandler.anyState
    cases data with
    | shutdownRequest =>
      exact (Xmpp.nullReads_deleteEvent _ _).trans (Xmpp.nullReads_emit (by simp) xmpp.getUniqueId.2)
    | iqResult => split_ifs <;> simp
    | _ => simp
  have elsewhere : ∀ {taken : Prop}, ¬ taken →
      ((handler.anyState reading ⟨id, isError, context, data⟩ xmpp).2.2.nullReads =
        xmpp.nullReads ↔ ¬ taken) := fun not => iff_of_true anyState not
  unfold isYourEvent TakesForAuth
  cases state : handler.state with
  | preLogin =>
    cases data with
    | onConnect =>
      refine iff_of_true ?_ (by simp)
      cases isError with
      | true => exact Xmpp.nullReads_deleteEvent _ xmpp
      | false =>
        refine (Xmpp.nullReads_deleteEvent _ _).trans ((Xmpp.nullReads_emit (by simp) _).trans ?_)
        exact Xmpp.nullReads_emit (by simp) xmpp.getUniqueId.2
    | onDisconnect => exact iff_of_true (Xmpp.nullReads_deleteEvent _ xmpp) (by simp)
    | _ => exact elsewhere (by simp)
  | authorizing =>
    cases data with
    | auth expireDate =>
      refine iff_of_true ?_ (by simp)
      cases isError with
      | true => exact Xmpp.nullReads_deleteEvent _ xmpp
      | false =>
        exact (Xmpp.nullReads_deleteEvent _ _).trans (Xmpp.nullReads_emit (by simp) xmpp)
    | iqResult =>
      by_cases ours : context = handler.contextId
      · cases isError with
        | true =>
          simp only [if_pos ours]
          exact iff_of_true (Xmpp.nullReads_deleteEvent _ xmpp) (by simp)
        | false =>
          simp only [if_pos ours]
          refine iff_of_false ?_ (by simp [ours])
          show (xmpp.emit .nullRead).nullReads ≠ xmpp.nullReads
          simp
      · simp only [if_neg ours]
        exact elsewhere fun taken => ours taken.2.2.2.symm
    | _ => exact elsewhere (by simp)
  | enablingCallEvents =>
    cases data with
    | subscribed isSubscribed subid =>
      refine iff_of_true ?_ (by simp)
      cases isError <;> exact Xmpp.nullReads_deleteEvent _ xmpp
    | _ => exact elsewhere (by simp)
  | _ => exact elsewhere (by simp)

/-- The handler waits for a reply with this context. -/
def awaitsReply (context : Long) (handler : InitStateHandler) : Bool :=
  (handler.state = .authorizing ∧ handler.contextId = context) ∨
    (handler.state = .shuttingDown ∧ handler.unsubscribeContextId = context)

/-- Of the plain results, the handler takes those that it waits for. -/
theorem accepts_iqResult (reading : Reading) (handler : InitStateHandler) {event : XmppEvent}
    (plain : event.data = .iqResult) (xmpp : Xmpp) :
    (handler.isYourEvent reading event xmpp).1 = handler.awaitsReply event.context := by
  unfold isYourEvent awaitsReply anyState authorizing
  rw [plain]
  cases state : handler.state with
  | authorizing =>
    by_cases ours : event.context = handler.contextId
    · cases event.isError <;> simp [ours]
    · simp [ours, Ne.symm ours]
  | shuttingDown =>
    by_cases ours : event.context = handler.unsubscribeContextId
    · simp [ours]
    · simp [ours, Ne.symm ours]
  | _ => simp

end InitStateHandler

theorem nullReads_checkInit (check : Nat → Reading) (handlers : List InitStateHandler)
    (xmpp : Xmpp) :
    (StateMachine.checkStateHandlersExist initVirtuals check handlers xmpp).2.nullReads =
      xmpp.nullReads := by
  refine StateMachine.checkStateHandlersExist_rule initVirtuals
    (fun _ _ object => object.nullReads = xmpp.nullReads) ?_ ?_ check [] handlers xmpp rfl
  · intro done handler rest object reading next nextObject before outcome
    have same := handler.isStillExist_snd object
    rw [show handler.isStillExist object = _ from outcome] at same
    exact (congrArg Xmpp.nullReads same).trans before
  · intro done handler rest object reading next nextObject before outcome
    have same := handler.isStillExist_snd object
    rw [show handler.isStillExist object = _ from outcome] at same
    exact (Xmpp.nullReads_initStateChange _ nextObject).trans
      ((congrArg Xmpp.nullReads same).trans before)

/-- The first handler that waits for a reply with the context of the event takes the event for the
answer to its authorization. -/
def TakenForAuth (event : XmppEvent) (handlers : List InitStateHandler) : Prop :=
  ∃ handler, handlers.find? (·.awaitsReply event.context) = some handler ∧
    handler.TakesForAuth event

/-- An event that all handlers refuse is not taken for an answer. -/
theorem not_takenForAuth {reading : Reading} {event : XmppEvent} {xmpp : Xmpp}
    {handlers : List InitStateHandler}
    (refusing : ∀ handler ∈ handlers,
      StateMachine.Refuses initVirtuals reading event xmpp handler) :
    ¬ TakenForAuth event handlers := by
  rintro ⟨handler, found, takes⟩
  have refuses := refusing handler (List.mem_of_find?_eq_some found)
  have accepted := handler.accepts_iqResult reading takes.1 xmpp
  have awaits : handler.awaitsReply event.context = true := List.find?_some found
  rw [awaits, show (handler.isYourEvent reading event xmpp).1 = false from refuses] at accepted
  cases accepted

/-- Whether an event is taken for an answer is up to the first handler that accepts it. -/
theorem takenForAuth_firstAccepts {reading : Reading} {event : XmppEvent} {xmpp : Xmpp}
    {handlers : List InitStateHandler} {handler : InitStateHandler}
    (first : StateMachine.FirstAccepts initVirtuals reading event xmpp handlers handler) :
    TakenForAuth event handlers ↔ handler.TakesForAuth event := by
  obtain ⟨before, after, rfl, refusing, accepts⟩ := first
  have found : event.data = .iqResult →
      (before ++ handler :: after).find? (·.awaitsReply event.context) = some handler := by
    intro plain
    have passed : before.find? (·.awaitsReply event.context) = none := by
      refine List.find?_eq_none.mpr fun earlier member awaits => ?_
      have accepted := earlier.accepts_iqResult reading plain xmpp
      rw [awaits, show (earlier.isYourEvent reading event xmpp).1 = false from
        refusing earlier member] at accepted
      cases accepted
    have awaits : handler.awaitsReply event.context = true := by
      rw [← handler.accepts_iqResult reading plain xmpp]
      exact accepts
    rw [List.find?_append, passed, Option.none_or, List.find?_cons_of_pos awaits]
  constructor
  · rintro ⟨other, same, takes⟩
    obtain rfl := Option.some.inj ((found takes.1).symm.trans same)
    exact takes
  · exact fun takes => ⟨handler, found takes.1, takes⟩

/-- An event makes the login machine read through a null pointer exactly when it is taken for the
answer to an authorization. -/
theorem nullReads_signalInit (readings : Readings) (event : XmppEvent)
    (handlers : List InitStateHandler) (xmpp : Xmpp) :
    (StateMachine.signalEvent initVirtuals readings event false handlers xmpp).2.2.nullReads =
      xmpp.nullReads ↔ ¬ TakenForAuth event handlers := by
  show (StateMachine.checkStateHandlersExist initVirtuals readings.check _ _).2.nullReads =
    xmpp.nullReads ↔ _
  rw [nullReads_checkInit]
  unfold StateMachine.handleEvent
  rcases StateMachine.offer_cases refusesUnchanged_initVirtuals readings.offer event handlers
    xmpp with
    ⟨refusing, result⟩ | ⟨before, handler, after, next, later, rfl, refusing, accepts, result⟩
  · rw [result]
    exact iff_of_true rfl (not_takenForAuth refusing)
  · rw [result]
    have outcome : (handler.isYourEvent readings.offer event xmpp).2.2 = later :=
      congrArg (fun outcome => outcome.2.2) accepts
    have reads := handler.nullReads_isYourEvent readings.offer event xmpp
    rw [outcome] at reads
    show (InitStateHandler.onStateChange next .isYourEventHandled later).nullReads = _ ↔ _
    rw [InitStateHandler.onStateChange, Xmpp.nullReads_initStateChange, reads]
    have first : StateMachine.FirstAccepts initVirtuals readings.offer event xmpp
        (before ++ handler :: after) handler :=
      ⟨before, after, rfl, refusing, congrArg Prod.fst accepts⟩
    exact not_congr (takenForAuth_firstAccepts first).symm

/-! ### The factories -/

/-- The field that the factory reads from the form of a reply, if it reads one -/
def IQ.requiredField (iq : IQ) : Option TString :=
  match replyForm iq with
  | some (command, _) =>
    if command.node = onsipAuthNode then some "expires".toList
    else if command.node = "create".toList ∧ iq.sender = onsipActiveCallsCommand then
      some "call-setup-id".toList
    else none
  | none => none

/-- A reply without an error whose form lacks the field that the factory reads -/
def IQ.LacksField (iq : IQ) : Prop :=
  iq.hasError = false ∧ ∃ command form name, replyForm iq = some (command, form) ∧
    iq.requiredField = some name ∧ form.field name = none

/-- A reply without an error with the field that the factory reads, which has no value -/
def IQ.LacksValue (iq : IQ) : Prop :=
  iq.hasError = false ∧ ∃ command form name field, replyForm iq = some (command, form) ∧
    iq.requiredField = some name ∧ form.field name = some field ∧ field.values = []

/-- What the factory makes of a reply from which it reads a field: it fails as the form or the field
does, or the event has the value. -/
theorem readReply_lacks {iq : IQ} {command : Command} {form : DataForm} {name : TString}
    (isForm : replyForm iq = some (command, form)) (required : iq.requiredField = some name)
    (context : Long) (data : TString → XmppEventData) :
    (iq.LacksField ∧ ∃ read, read.isNull = true ∧
      readReply iq context form name data = .error read) ∨
    (iq.LacksValue ∧ ∃ read, read.isNull = false ∧
      readReply iq context form name data = .error read) ∨
    ((¬ iq.LacksField ∧ ¬ iq.LacksValue) ∧ ∃ value,
      readReply iq context form name data =
        .ok (some ⟨iq.id, iq.hasError, context, data value⟩)) := by
  rcases readReply_cases iq context form name data with
    ⟨lacks, result⟩ | ⟨⟨fine, field, found, empty⟩, read, notNull, result⟩ | ⟨reads, made⟩
  · exact Or.inl ⟨⟨lacks.1, command, form, name, isForm, required, lacks.2⟩, _, rfl, result⟩
  · exact Or.inr (Or.inl ⟨⟨fine, command, form, name, field, isForm, required, found, empty⟩,
      read, notNull, result⟩)
  · refine Or.inr (Or.inr ⟨⟨?_, ?_⟩, made⟩)
    · rintro ⟨fine, _, _, _, same, also, absent⟩
      cases isForm.symm.trans same
      cases required.symm.trans also
      exact reads ⟨fine, fun field found => by cases absent.symm.trans found⟩
    · rintro ⟨fine, _, _, _, field, same, also, found, empty⟩
      cases isForm.symm.trans same
      cases required.symm.trans also
      refine reads ⟨fine, fun other alsoFound => ?_⟩
      obtain rfl := Option.some.inj (found.symm.trans alsoFound)
      exact empty

/-- The factory reads through a null pointer, or the front of an empty list, or it makes an event of
the reply; the event is a plain result when the factory reads no field. -/
theorem iqFactory_reply {iq : IQ} (reply : iq.isReply = true) (context : Long) :
    (iq.LacksField ∧ ∃ read, read.isNull = true ∧ iqFactory iq context = .error read) ∨
    (iq.LacksValue ∧ ∃ read, read.isNull = false ∧ iqFactory iq context = .error read) ∨
    ((¬ iq.LacksField ∧ ¬ iq.LacksValue) ∧ ∃ event, iqFactory iq context = .ok (some event) ∧
      event.context = context ∧ event.isError = iq.hasError ∧
      (event.data = .iqResult ↔ iq.requiredField = none)) := by
  have plain : checkIqResult iq context = some ⟨iq.id, iq.hasError, context, .iqResult⟩ := by
    rw [checkIqResult, if_pos reply]
  have noField : iq.requiredField = none → ¬ iq.LacksField ∧ ¬ iq.LacksValue := by
    intro none
    constructor
    · rintro ⟨-, _, _, _, -, required, -⟩
      cases none.symm.trans required
    · rintro ⟨-, _, _, _, _, -, required, -⟩
      cases none.symm.trans required
  unfold iqFactory checkAuth checkCallRequest
  rw [plain]
  rcases isForm : replyForm iq with _ | ⟨command, form⟩
  · have none : iq.requiredField = none := by rw [IQ.requiredField, isForm]
    exact Or.inr (Or.inr ⟨noField none, _, rfl, rfl, rfl, iff_of_true rfl none⟩)
  · dsimp only
    by_cases auth : command.node = onsipAuthNode
    · have required : iq.requiredField = some "expires".toList := by
        rw [IQ.requiredField, isForm]
        exact if_pos auth
      simp only [if_pos auth]
      rcases readReply_lacks isForm required context .auth with
        ⟨lacks, read, isNull, result⟩ | ⟨lacks, read, notNull, result⟩ | ⟨reads, value, result⟩
      · exact Or.inl ⟨lacks, read, isNull, by rw [result]; rfl⟩
      · exact Or.inr (Or.inl ⟨lacks, read, notNull, by rw [result]; rfl⟩)
      · rw [result]
        exact Or.inr (Or.inr ⟨reads, _, rfl, rfl, rfl, by simp [required]⟩)
    · simp only [if_neg auth]
      by_cases create : command.node = "create".toList ∧ iq.sender = onsipActiveCallsCommand
      · have required : iq.requiredField = some "call-setup-id".toList := by
          rw [IQ.requiredField, isForm]
          exact (if_neg auth).trans (if_pos create)
        simp only [if_pos create]
        rcases readReply_lacks isForm required context .callRequest with
          ⟨lacks, read, isNull, result⟩ | ⟨lacks, read, notNull, result⟩ | ⟨reads, value, result⟩
        · exact Or.inl ⟨lacks, read, isNull, by rw [result]; rfl⟩
        · exact Or.inr (Or.inl ⟨lacks, read, notNull, by rw [result]; rfl⟩)
        · rw [result]
          exact Or.inr (Or.inr ⟨reads, _, rfl, rfl, rfl, by simp [required]⟩)
      · have none : iq.requiredField = none := by
          rw [IQ.requiredField, isForm]
          exact (if_neg auth).trans (if_neg create)
        simp only [if_neg create]
        exact Or.inr (Or.inr ⟨noField none, _, rfl, rfl, rfl, iff_of_true rfl none⟩)

/-! ### Stanzas -/

namespace OnSipXmpp

/-- An event makes the program read through a null pointer exactly when the login takes it for the
answer to its authorization. -/
theorem nullReads_signalEvent (initReadings callReadings : Readings) (event : XmppEvent)
    (object : OnSipXmpp) :
    (object.signalEvent initReadings callReadings event).xmpp.nullReads = object.xmpp.nullReads ↔
      ¬ TakenForAuth event object.initStateMachine.stateHandlers := by
  have login := nullReads_signalInit initReadings event object.initStateMachine.stateHandlers
    object.xmpp
  rcases object.signalEvent_cases initReadings callReadings event with ⟨-, same⟩ | ⟨-, same⟩
  · rw [same]
    exact login
  · rw [same, ← login]
    have calls : ∀ other : OnSipXmpp,
        (other.signalCalls callReadings event).xmpp.nullReads = other.xmpp.nullReads := by
      intro other
      have signalled := callVirtuals_nullReads.signalEvent callReadings event false
        other.calls.stateHandlers other.xmpp
      unfold signalCalls
      split
      · rename_i outcome
        rw [outcome] at signalled
        exact signalled
      · rename_i outcome
        rw [outcome] at signalled
        exact (Xmpp.nullReads_deleteEvent event _).trans signalled
    rw [calls]
    rfl

/-- The handling of a stanza reads through no null pointer. -/
def Fine (object : OnSipXmpp) : Except UndefinedRead OnSipXmpp → Prop
  | .ok next => next.xmpp.nullReads = object.xmpp.nullReads
  | .error read => read.isNull = false

/-- A plain result without an error is the first reply with its context that a handler of the login
waits for, and that handler is in `Authorizing`. -/
def PlainWhileAuthorizing (iq : IQ) (context : Long) (object : OnSipXmpp) : Prop :=
  iq.hasError = false ∧ iq.requiredField = none ∧
    ∃ handler, object.initStateMachine.stateHandlers.find? (·.awaitsReply context) =
        some handler ∧ handler.state = .authorizing

theorem takenForAuth_iff {iq : IQ} {context : Long} {event : XmppEvent} (object : OnSipXmpp)
    (sameContext : event.context = context) (sameError : event.isError = iq.hasError)
    (plain : event.data = .iqResult ↔ iq.requiredField = none) :
    TakenForAuth event object.initStateMachine.stateHandlers ↔
      object.PlainWhileAuthorizing iq context := by
  unfold TakenForAuth PlainWhileAuthorizing InitStateHandler.TakesForAuth
  rw [sameContext, sameError, plain]
  constructor
  · rintro ⟨handler, found, required, fine, state, -⟩
    exact ⟨fine, required, handler, found, state⟩
  · rintro ⟨fine, required, handler, found, state⟩
    refine ⟨handler, found, required, fine, state, ?_⟩
    have awaits := List.find?_some found
    simpa [InitStateHandler.awaitsReply, state] using awaits

end OnSipXmpp

open OnSipXmpp in
/-- When a stanza makes the program read through a null pointer: a reply does exactly when it has
no error and its form lacks the field that the factory reads, or when it is a plain result that the
login takes for the answer to its authorization. A message does exactly when it is of no type and
has an error, and its only item stands for an event. -/
theorem nullReads_iff (initReadings callReadings : Readings) (object : OnSipXmpp) :
    (∀ iq context, iq.isReply = true →
      (object.Fine (object.handleIqID initReadings callReadings iq context) ↔
        ¬ iq.LacksField ∧ ¬ object.PlainWhileAuthorizing iq context)) ∧
    ∀ msg, object.Fine (object.handleMessage initReadings callReadings msg) ↔
      ¬ ReadsNullTag msg := by
  constructor
  · intro iq context reply
    unfold handleIqID
    rcases iqFactory_reply reply context with
      ⟨lacks, read, isNull, result⟩ | ⟨lacks, read, notNull, result⟩ |
        ⟨⟨reads, -⟩, event, result, sameContext, sameError, plain⟩
    · rw [result]
      refine iff_of_false ?_ fun fine => fine.1 lacks
      exact fun notNull => Bool.false_ne_true (notNull.symm.trans isNull)
    · obtain ⟨-, command, form, name, field, isForm, required, found, -⟩ := lacks
      rw [result]
      refine iff_of_true notNull ⟨?_, ?_⟩
      · rintro ⟨-, _, _, _, same, also, absent⟩
        cases isForm.symm.trans same
        cases required.symm.trans also
        cases found.symm.trans absent
      · rintro ⟨-, none, -⟩
        cases required.symm.trans none
    · rw [result, ← takenForAuth_iff object sameContext sameError plain,
        ← nullReads_signalEvent initReadings callReadings event object]
      exact (and_iff_right reads).symm
  · intro msg
    unfold handleMessage
    rcases msgFactory_cases msg with ⟨reads, result⟩ | ⟨hasTag, _ | event, result, noReply⟩
    · rw [result]
      exact iff_of_false (fun notNull : true = false => Bool.false_ne_true notNull.symm)
        (not_not.mpr reads)
    · rw [result]
      exact iff_of_true rfl hasTag
    · rw [result]
      refine iff_of_true ((nullReads_signalEvent initReadings callReadings event object).mpr ?_)
        hasTag
      rintro ⟨handler, -, takes⟩
      exact noReply event rfl takes.1

namespace Example

/-- A session begins and the server accepts the connection. -/
def connect : List OnSipXmpp.Action :=
  .start (reading 0) login :: pollBoth 250 ++ [signalAt 300 (.connectFactory true)]

/-- The reply to the authorization, with these fields in its form -/
def authReply (fields : List DataFormField) : IQ :=
  ⟨.result, "auth".toList, [], false, some ⟨onsipAuthNode, some ⟨fields⟩⟩⟩

end Example

open OnSipXmpp in
/-- The reply to the authorization with its date, while the login waits for it -/
theorem nullReads_iff_authReply :
    ∃ object, Library.run step Example.connect (new (Example.reading 0)) = some object ∧
      object.Fine (object.handleIqID (Example.readings 310) (Example.readings 310)
        (Example.authReply [⟨"expires".toList, ["2030-01-01T00:00Z".toList]⟩]) 1) := by
  have reached : Library.run step Example.connect (new (Example.reading 0)) = some _ := rfl
  refine ⟨_, reached, ((nullReads_iff (Example.readings 310) (Example.readings 310) _).1 _ 1
    rfl).mpr ⟨?_, ?_⟩⟩
  · rintro ⟨-, command, form, name, same, required, lacks⟩
    cases same
    cases required
    exact absurd lacks (by decide)
  · rintro ⟨-, required, -⟩
    exact absurd required (by decide)

open OnSipXmpp in
/-- A plain result while the login waits for the answer to its authorization makes the program read
through a null pointer. -/
theorem nullReads_plainReply :
    ¬ ∀ (reading : Reading) (actions : List Action) (object : OnSipXmpp)
      (initReadings callReadings : Readings) (iq : IQ) (context : Long),
      Library.run step actions (new reading) = some object → iq.isReply = true →
        object.Fine (object.handleIqID initReadings callReadings iq context) := by
  intro fine
  have reached : Library.run step Example.connect (new (Example.reading 0)) = some _ := rfl
  have same := fine (Example.reading 0) Example.connect _
    (Example.readings 310) (Example.readings 310) ⟨.result, [], [], false, none⟩ 1 reached rfl
  refine (nullReads_signalEvent _ _ _ _).mp same ⟨_, rfl, ?_⟩
  unfold InitStateHandler.TakesForAuth
  decide

end JnTapi
