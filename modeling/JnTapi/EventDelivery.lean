/-
This file proves which notifications of the call machine `ConnectionThread`
passes on to TAPI.

The object keeps each notification in a list. The thread empties the list after
each `Poll` of its loop that returns without an error, and passes on what it has
found; `InitOnSipTapi` empties it too, when it begins and when it has logged in,
and passes on nothing.
-/

import JnTapi.Init.Facts
import JnTapi.Orphans
import JnTapi.ConnectionThread

namespace JnTapi

open Library

/-! ### What the object keeps -/

namespace Xmpp

/-- What the call machine has notified in between is kept for the caller. -/
def Kept (before after : Xmpp) : Prop :=
  ∃ more, after.lstCallEvents = before.lstCallEvents ++ more ∧
    callNotifications after.effects = callNotifications before.effects ++ more

theorem Kept.trans {first second third : Xmpp} (left : Kept first second)
    (right : Kept second third) : Kept first third := by
  obtain ⟨leftMore, leftEvents, leftNotified⟩ := left
  obtain ⟨rightMore, rightEvents, rightNotified⟩ := right
  refine ⟨leftMore ++ rightMore, ?_, ?_⟩
  · rw [rightEvents, leftEvents, List.append_assoc]
  · rw [rightNotified, leftNotified, List.append_assoc]

theorem Quiet.kept {before after : Xmpp} (quiet : before.Quiet after) : Kept before after := by
  refine ⟨[], ?_, ?_⟩
  · rw [quiet.lstCallEvents, List.append_nil]
  · rw [quiet.callNotifications_eq, List.append_nil]

theorem Kept.refl (xmpp : Xmpp) : Kept xmpp xmpp := (Quiet.refl xmpp).kept

theorem kept_callStateChange (notification : CallNotification) (xmpp : Xmpp) :
    Kept xmpp (xmpp.callStateChange notification) :=
  ⟨[notification], rfl, callNotifications_append _ _⟩

theorem kept_initStateChange (notification : InitNotification) (xmpp : Xmpp) :
    Kept xmpp (xmpp.initStateChange notification) := by
  refine ⟨[], (List.append_nil _).symm, ?_⟩
  rw [(callsUnchanged_initStateChange notification xmpp).notifications, List.append_nil]

end Xmpp

theorem callVirtuals_kept : callVirtuals.Changes Xmpp.Kept :=
  callVirtuals_changes Xmpp.Kept.trans Xmpp.Quiet.kept Xmpp.kept_callStateChange

theorem initVirtuals_kept : initVirtuals.Changes Xmpp.Kept :=
  initVirtuals_changes Xmpp.Kept.trans (fun loginOnly => loginOnly.quiet.kept)
    Xmpp.kept_initStateChange

namespace OnSipXmpp

theorem kept_call {object next : OnSipXmpp} {action : CallAction}
    (stepped : object.step (.call action) = some next) : object.xmpp.Kept next.xmpp := by
  obtain ⟨-, calls, called, rfl⟩ := step_call.mp stepped
  exact CallSystem.changes_step callVirtuals_kept Xmpp.Quiet.kept called

theorem kept_pollInit (readings : StateMachineBase.PollReadings) (object : OnSipXmpp) :
    object.xmpp.Kept (object.pollInit readings).xmpp :=
  initVirtuals_kept.pollMachine readings object.initStateMachine object.xmpp

theorem kept_signalCalls (readings : Readings) (event : XmppEvent) (object : OnSipXmpp) :
    object.xmpp.Kept (object.signalCalls readings event).xmpp := by
  obtain ⟨xmpp, quiet, same⟩ := calls_signalCalls readings event object
  rw [OnSipXmpp.xmpp, OnSipXmpp.xmpp, same]
  exact (callVirtuals_kept.signalEvent readings event false object.calls.stateHandlers
    object.xmpp).trans quiet.kept

theorem kept_arrive (arrival : Arrival) (object : OnSipXmpp) :
    object.xmpp.Kept (object.arrive arrival).xmpp := by
  cases arrival with
  | event initReadings callReadings event fromConnection =>
    have first := initVirtuals_kept.signalEvent initReadings
      { event with context := object.loginContext + event.context } false
      object.initStateMachine.stateHandlers object.xmpp
    rw [arrive]
    rcases object.signalEvent_cases initReadings callReadings
      { event with context := object.loginContext + event.context } with ⟨-, same⟩ | ⟨-, same⟩
    · rw [same]
      exact first
    · rw [same]
      exact first.trans (kept_signalCalls callReadings _ _)
  | workerReply index event => exact Xmpp.Kept.refl _
  | workerMessage event => exact Xmpp.Kept.refl _

end OnSipXmpp

/-! ### `InitOnSipTapi` -/

/-- A call that returns true has cleared the events. -/
theorem InitCall.lstCallEvents_returned {call next : InitCall} {action : InitAction}
    {stateType : InitStatesType} (running : call.result = none)
    (stepped : call.step action = some next) (success : next.control = .returned true stateType) :
    next.object.xmpp.lstCallEvents = [] := by
  have stays : ∀ {object : OnSipXmpp}, next = ⟨call.control, object⟩ → False := by
    rintro object rfl
    rw [result, show call.control = .returned true stateType from success] at running
    cases running
  cases action with
  | call action =>
    rcases step_call stepped with rfl | ⟨object, -, ⟨-, same⟩ | ⟨timeOut, reset, -, -, rfl⟩⟩
    · exact (stays rfl).elim
    · exact (stays same).elim
    · cases success
  | arrive arrival =>
    rcases step_arrive stepped with ⟨-, rfl⟩ | ⟨-, same⟩
    · exact (stays rfl).elim
    · exact (stays same).elim
  | connected succeeded =>
    rcases step_connected stepped with ⟨-, rfl⟩ | ⟨-, rfl⟩
    · exact (stays rfl).elim
    · cases succeeded <;> cases success
  | checkStop signalled reading =>
    rcases step_checkStop stepped with ⟨-, rfl⟩ | ⟨-, rfl⟩
    · exact (stays rfl).elim
    · cases signalled <;> cases success
  | checkTime time loopTime readings reset =>
    rcases step_checkTime stepped with
      ⟨-, rfl⟩ | ⟨timeOut, -, ⟨-, rfl⟩ | ⟨-, -, rfl⟩ | ⟨-, -, rfl⟩⟩
    · exact (stays rfl).elim
    · unfold polled at success ⊢
      dsimp only at success ⊢
      split_ifs at success ⊢ with failed ok
      · cases success
      · rfl
    · cases success
    · cases success
  | received error =>
    rcases step_received stepped with ⟨-, rfl⟩ | ⟨timeOut, -, rfl⟩
    · exact (stays rfl).elim
    · split_ifs at success
      cases success

/-! ### The polls of the loop -/

namespace ConnectionThread

/-- The notifications of the call machine that are given from one state to another -/
def given (before after : ConnectionThread) : List CallNotification :=
  (callNotifications after.object.xmpp.effects).drop
    (callNotifications before.object.xmpp.effects).length

/-- What happens in a `Poll` of the loop. -/
inductive PollMark
  | given (notification : CallNotification)
  | returned (success : Bool)

/-- What the step does in a `Poll` of the loop, if it belongs to one -/
def pollMarks (thread : ConnectionThread) (action : ThreadAction) : List PollMark :=
  match thread.control, thread.step action with
  | .polling .connectionThread _, some next =>
    (given thread next).map .given ++
      match next.control with
      | .polling _ _ => []
      | .errorWaiting => [.returned false]
      | _ => [.returned true]
  | _, _ => []

/-- The notifications of the polls that have returned true, and those of the poll under way. -/
structure PollLog where
  succeeded : List CallNotification
  current : List CallNotification

namespace PollLog

def add (log : PollLog) : PollMark → PollLog
  | .given notification => { log with current := log.current ++ [notification] }
  | .returned true => ⟨log.succeeded ++ log.current, []⟩
  | .returned false => ⟨log.succeeded, []⟩

/-- The log of these marks -/
def of (marks : List PollMark) : PollLog := marks.foldl add ⟨[], []⟩

theorem of_append (first second : List PollMark) :
    of (first ++ second) = second.foldl add (of first) := List.foldl_append

theorem foldl_given (log : PollLog) (notifications : List CallNotification) :
    (notifications.map .given).foldl add log =
      { log with current := log.current ++ notifications } := by
  induction notifications generalizing log with
  | nil => rw [List.append_nil]; rfl
  | cons notification rest inductionHypothesis =>
    rw [List.map_cons, List.foldl_cons, inductionHypothesis, add, List.append_assoc]
    rfl

end PollLog

/-- The call event that the step passes to `_processEvent` -/
def processed (thread : ConnectionThread) : ThreadAction → List CallNotification
  | .processEvent =>
    match thread.control with
    | .processing lstCallEvents => lstCallEvents.take 1
    | _ => []
  | _ => []

/-- The call events that are still to be passed to `_processEvent` -/
def pending (thread : ConnectionThread) : List CallNotification :=
  match thread.control with
  | .processing lstCallEvents => lstCallEvents
  | _ => []

/-- What the thread has found by the place where it stands. -/
def Accounted (log : PollLog) (thread : ConnectionThread) : Prop :=
  match thread.control with
  | .initializing first control => (first = false → thread.fConnected = false) ∧
      InitCall.result ⟨control, thread.object⟩ = none ∧ log.current = []
  | .looping =>
    (thread.fConnected = true → thread.object.xmpp.lstCallEvents = []) ∧ log.current = []
  | .polling .connectionThread _ => thread.object.xmpp.lstCallEvents = log.current
  | .connected | .processing _ => thread.object.xmpp.lstCallEvents = [] ∧ log.current = []
  | .retryWaiting | .errorWaiting | .cleaning false =>
    thread.fConnected = false ∧ log.current = []
  | _ => log.current = []

/-- The notifications of the polls that have returned true are processed, or about to be. -/
structure Delivery (processed : List CallNotification) (log : PollLog)
    (thread : ConnectionThread) : Prop where
  accounted : thread.Accounted log
  succeeded : processed ++ thread.pending = log.succeeded

/-- A step outside of the polls of the loop marks nothing. -/
theorem pollMarks_outside {thread : ConnectionThread} (action : ThreadAction)
    (outside : ∀ control, thread.control ≠ .polling .connectionThread control) :
    thread.pollMarks action = [] := by
  unfold pollMarks
  split
  case h_1 control after stands same => exact absurd stands (outside control)
  case h_2 => rfl

theorem given_of_kept {before after : ConnectionThread}
    (kept : before.object.xmpp.Kept after.object.xmpp) :
    after.object.xmpp.lstCallEvents = before.object.xmpp.lstCallEvents ++ given before after := by
  obtain ⟨more, events, notified⟩ := kept
  rw [given, notified, List.drop_left, events]

/-- A step of a `Poll` of the loop marks what it gives, and the result of the poll when it ends. -/
theorem pollMarks_inside {thread next : ConnectionThread} {action : ThreadAction}
    {control : PollControl} (inside : thread.control = .polling .connectionThread control)
    (stepped : thread.step action = some next) :
    thread.pollMarks action = (given thread next).map .given ++
      match next.control with
      | .polling _ _ => []
      | .errorWaiting => [.returned false]
      | _ => [.returned true] := by
  unfold pollMarks
  rw [stepped]
  split
  case h_1 control after stands same =>
    obtain rfl := Option.some.inj same
    rfl
  case h_2 outside => exact (outside control next inside rfl).elim

/-- Only a thread that stands at `_processEvent` processes an event. -/
theorem processed_eq_nil {thread : ConnectionThread} (action : ThreadAction)
    (outside : ∀ lstCallEvents, thread.control ≠ .processing lstCallEvents) :
    thread.processed action = [] := by
  unfold processed
  split
  case h_1 =>
    split
    case h_1 lstCallEvents stands => exact absurd stands (outside lstCallEvents)
    case h_2 => rfl
  case h_2 => rfl

theorem pending_eq_nil {thread : ConnectionThread}
    (outside : ∀ lstCallEvents, thread.control ≠ .processing lstCallEvents) :
    thread.pending = [] := by
  unfold pending
  split
  case h_1 lstCallEvents stands => exact absurd stands (outside lstCallEvents)
  case h_2 => rfl

/-- The delivery that the step leads to -/
def DeliveryAfter (processedBefore : List CallNotification) (log : PollLog)
    (thread : ConnectionThread) (action : ThreadAction) (next : ConnectionThread) : Prop :=
  Delivery (processedBefore ++ thread.processed action)
    ((thread.pollMarks action).foldl PollLog.add log) next

section delivery

variable {processedBefore : List CallNotification} {log : PollLog}
  {thread next : ConnectionThread} {action : ThreadAction}

/-- A step outside of the polls of the loop. -/
theorem Delivery.outside (delivery : Delivery processedBefore log thread)
    (outside : ∀ control, thread.control ≠ .polling .connectionThread control)
    (moves : thread.processed action ++ next.pending = thread.pending)
    (accounted : next.Accounted log) :
    DeliveryAfter processedBefore log thread action next := by
  rw [DeliveryAfter, pollMarks_outside action outside]
  refine ⟨accounted, ?_⟩
  rw [List.append_assoc, moves]
  exact delivery.succeeded

/-- A step that processes nothing, outside of the polls of the loop. -/
theorem Delivery.silent (delivery : Delivery processedBefore log thread) {control : ThreadControl}
    (stands : thread.control = control)
    (outside : ∀ inside, control ≠ .polling .connectionThread inside)
    (elsewhere : ∀ lstCallEvents, control ≠ .processing lstCallEvents)
    (pending : next.pending = []) (accounted : next.Accounted log) :
    DeliveryAfter processedBefore log thread action next := by
  refine delivery.outside (by rwa [stands]) ?_ accounted
  rw [processed_eq_nil action (by rwa [stands]), pending, pending_eq_nil (by rwa [stands])]
  rfl

/-- A step of a `Poll` of `Disconnect`. -/
theorem Delivery.disconnecting (delivery : Delivery processedBefore log thread)
    {tmout : TimeOut} {before : PollControl}
    (stands : thread.control = .polling (.disconnect tmout) before)
    (pending : next.pending = []) (accounted : log.current = [] → next.Accounted log) :
    DeliveryAfter processedBefore log thread action next := by
  have current := delivery.accounted
  unfold Accounted at current
  rw [stands] at current
  exact delivery.silent stands (by simp) (by simp) pending (accounted current)

/-- A step after which the `Poll` goes on. -/
theorem Delivery.pollGoesOn (delivery : Delivery processedBefore log thread)
    {before after : PollControl} (inside : thread.control = .polling .connectionThread before)
    (stays : next.control = .polling .connectionThread after)
    (stepped : thread.step action = some next)
    (kept : thread.object.xmpp.Kept next.object.xmpp) :
    DeliveryAfter processedBefore log thread action next := by
  have accounted := delivery.accounted
  have succeeded := delivery.succeeded
  unfold Accounted at accounted
  rw [inside] at accounted
  rw [pending_eq_nil (by simp [inside]), List.append_nil] at succeeded
  rw [DeliveryAfter, pollMarks_inside inside stepped, stays, List.append_nil, PollLog.foldl_given,
    processed_eq_nil action (by simp [inside]), List.append_nil]
  constructor
  · unfold Accounted
    rw [stays]
    show next.object.xmpp.lstCallEvents = log.current ++ given thread next
    rw [given_of_kept kept]
    exact congrArg (· ++ _) accounted
  · rw [pending_eq_nil (by simp [stays]), List.append_nil]
    exact succeeded

/-- A step that ends the `Poll` without a notification. -/
theorem Delivery.pollReturns (delivery : Delivery processedBefore log thread)
    {before : PollControl} (inside : thread.control = .polling .connectionThread before)
    {success : Bool}
    (marks : thread.pollMarks action = [.returned success])
    (accounted : next.Accounted (log.add (.returned success)))
    (pending : next.pending = if success then log.current else []) :
    DeliveryAfter processedBefore log thread action next := by
  have succeeded := delivery.succeeded
  rw [pending_eq_nil (by simp [inside]), List.append_nil] at succeeded
  rw [DeliveryAfter, marks, processed_eq_nil action (by simp [inside]), List.append_nil]
  refine ⟨accounted, ?_⟩
  rw [pending, succeeded]
  cases success
  · exact List.append_nil _
  · rfl

/-- What another thread does leaves the accounts as they are. -/
theorem Accounted.otherCall (accounted : thread.Accounted log) {object : OnSipXmpp}
    (same : object.xmpp.lstCallEvents = thread.object.xmpp.lstCallEvents) :
    Accounted log { thread with object := object } := by
  obtain ⟨control, fConnected, initStateType, loginInfo, before⟩ := thread
  unfold Accounted at accounted ⊢
  rcases control with _ | _ | _ | _ | ⟨_ | _, _⟩ | _ | _ | _ | (_ | _) | _
  all_goals simp only [same]; exact accounted

theorem lstCallEvents_otherCall {object after : OnSipXmpp} {action : CallAction}
    (other : InitCall.otherThread action = true)
    (called : object.step (.call action) = some after) :
    after.xmpp.lstCallEvents = object.xmpp.lstCallEvents := by
  obtain ⟨-, calls, stepped, rfl⟩ := OnSipXmpp.step_call.mp called
  cases action with
  | drawCallId =>
    obtain rfl := Option.some.inj stepped
    rfl
  | addCallHandler index reading =>
    obtain ⟨callId, phoneNumber, -, rfl⟩ := CallSystem.step_addCallHandler.mp stepped
    rfl
  | dropCallAsync =>
    obtain rfl := Option.some.inj stepped
    rfl
  | _ => cases other

theorem given_eq_nil {before after : ConnectionThread}
    (same : after.object.xmpp.effects = before.object.xmpp.effects) : given before after = [] := by
  rw [given, same, List.drop_length]

/-- `InitOnSipTapi` passes on nothing and leaves nothing behind. -/
theorem accounted_initialized {first : Bool} {control : InitControl} {action : InitAction}
    {call : InitCall} (accounted : thread.Accounted log)
    (stands : thread.control = .initializing first control)
    (stepped : InitCall.step ⟨control, thread.object⟩ action = some call) :
    (thread.initialized first call).Accounted log ∧
      (thread.initialized first call).pending = [] := by
  unfold Accounted at accounted
  rw [stands] at accounted
  obtain ⟨later, running, current⟩ := accounted
  unfold initialized
  split
  case h_1 stateType returned =>
    have cleared := InitCall.lstCallEvents_returned running stepped returned
    cases first with
    | true => exact ⟨⟨fun _ => cleared, current⟩, rfl⟩
    | false => exact ⟨⟨cleared, current⟩, rfl⟩
  case h_2 stateType returned =>
    cases first with
    | true => exact ⟨current, rfl⟩
    | false => exact ⟨⟨later rfl, current⟩, rfl⟩
  case h_3 after succeeded failed =>
    refine ⟨⟨later, ?_, current⟩, rfl⟩
    unfold InitCall.result
    split
    case h_1 initialized stateType returned =>
      cases initialized with
      | true => exact absurd returned (succeeded stateType)
      | false => exact absurd returned (failed stateType)
    case h_2 => rfl

/-- A step that ends the `Poll` marks its result. -/
theorem pollMarks_returned {before : PollControl} {success : Bool}
    (inside : thread.control = .polling .connectionThread before)
    (stepped : thread.step action = some next)
    (same : next.object.xmpp.effects = thread.object.xmpp.effects)
    (ends : match next.control with
      | .polling _ _ => False
      | .errorWaiting => success = false
      | _ => success = true) : thread.pollMarks action = [.returned success] := by
  rw [pollMarks_inside inside stepped, given_eq_nil same]
  cases control : next.control <;> rw [control] at ends <;> simp_all

/-! ### The steps -/

/-- A call of another thread -/
theorem Delivery.step_otherCall (delivery : Delivery processedBefore log thread)
    {callAction : CallAction} {object : OnSipXmpp}
    (other : InitCall.otherThread callAction = true)
    (called : thread.object.step (.call callAction) = some object)
    (stepped : thread.step (.call callAction) = some { thread with object := object }) :
    DeliveryAfter processedBefore log thread (.call callAction)
      { thread with object := object } := by
  have same := lstCallEvents_otherCall other called
  by_cases inside : ∃ control, thread.control = .polling .connectionThread control
  · obtain ⟨control, inside⟩ := inside
    exact delivery.pollGoesOn inside inside stepped (OnSipXmpp.kept_call called)
  · exact delivery.outside (fun control stands => inside ⟨control, stands⟩) rfl
      (delivery.accounted.otherCall same)

/-- A step of the poll of the calls -/
theorem Delivery.step_pollCall (delivery : Delivery processedBefore log thread)
    {caller : PollCaller} {timeOut : TimeOut} {reset : Reading} {callAction : CallAction}
    {object : OnSipXmpp} (stands : thread.control = .polling caller (.pollingCalls timeOut reset))
    (called : thread.object.step (.call callAction) = some object)
    (stepped : thread.step (.call callAction) =
      some (thread.afterCall caller timeOut reset callAction object)) :
    DeliveryAfter processedBefore log thread (.call callAction)
      (thread.afterCall caller timeOut reset callAction object) := by
  have kept := OnSipXmpp.kept_call called
  have moves : ∃ after, (thread.afterCall caller timeOut reset callAction object).control =
      .polling caller after ∧
      (thread.afterCall caller timeOut reset callAction object).object.xmpp = object.xmpp := by
    unfold afterCall
    split
    · exact ⟨_, rfl, rfl⟩
    · exact ⟨_, stands, rfl⟩
  obtain ⟨after, goesOn, same⟩ := moves
  cases caller with
  | connectionThread => exact delivery.pollGoesOn stands goesOn stepped (same ▸ kept)
  | disconnect tmout =>
    refine delivery.disconnecting stands (pending_eq_nil (by simp [goesOn])) fun current => ?_
    unfold Accounted
    rw [goesOn]
    exact current

/-- Something arrives. -/
theorem Delivery.step_arrive (delivery : Delivery processedBefore log thread) (arrival : Arrival)
    (stands : (∃ caller timeOut, thread.control = .polling caller (.receiving timeOut)) ∨
      ∃ last, thread.control = .cleaning last)
    (stepped : thread.step (.arrive arrival) =
      some { thread with object := thread.object.arrive arrival }) :
    DeliveryAfter processedBefore log thread (.arrive arrival)
      { thread with object := thread.object.arrive arrival } := by
  rcases stands with ⟨caller, timeOut, stands⟩ | ⟨last, stands⟩
  · cases caller with
    | connectionThread =>
      exact delivery.pollGoesOn stands stands stepped
        (OnSipXmpp.kept_arrive arrival thread.object)
    | disconnect tmout =>
      refine delivery.disconnecting stands (pending_eq_nil (by simp [stands])) fun current => ?_
      unfold Accounted
      simp only [stands]
      exact current
  · have accounted := delivery.accounted
    unfold Accounted at accounted
    rw [stands] at accounted
    refine delivery.silent stands (by simp) (by simp) (pending_eq_nil (by simp [stands])) ?_
    unfold Accounted
    simp only [stands]
    cases last <;> exact accounted

/-- The stop event is found signalled. -/
theorem Delivery.step_stop (delivery : Delivery processedBefore log thread) (reading : Reading)
    (stands : thread.control = .looping ∨ thread.control = .errorWaiting) :
    DeliveryAfter processedBefore log thread action (thread.disconnect reading) := by
  have current : log.current = [] := by
    have accounted := delivery.accounted
    unfold Accounted at accounted
    rcases stands with stands | stands <;> rw [stands] at accounted <;> exact accounted.2
  have next : ((thread.disconnect reading).Accounted log) ∧
      (thread.disconnect reading).pending = [] := by
    unfold disconnect
    split_ifs
    · exact ⟨current, rfl⟩
    · exact ⟨current, rfl⟩
  rcases stands with stands | stands
  · exact delivery.silent stands (by simp) (by simp) next.2 next.1
  · exact delivery.silent stands (by simp) (by simp) next.2 next.1

/-- `Poll` is called in the loop. -/
theorem Delivery.step_poll (delivery : Delivery processedBefore log thread) (reading : Reading)
    (stands : (thread.control = .looping ∧ thread.fConnected = true ∧
        action = .checkStop false reading) ∨
      (thread.control = .connected ∧ action = .beginPoll reading)) :
    DeliveryAfter processedBefore log thread action (thread.poll .connectionThread reading) := by
  have accounted := delivery.accounted
  unfold Accounted at accounted
  rcases stands with ⟨stands, connected, -⟩ | ⟨stands, -⟩
  · rw [stands] at accounted
    exact delivery.silent stands (by simp) (by simp) rfl
      ((accounted.1 connected).trans accounted.2.symm)
  · rw [stands] at accounted
    exact delivery.silent stands (by simp) (by simp) rfl (accounted.1.trans accounted.2.symm)

/-- `InitOnSipTapi` is called in the loop. -/
theorem Delivery.step_tryConnect (delivery : Delivery processedBefore log thread)
    (reading : Reading)
    (stands : (thread.control = .looping ∧ thread.fConnected = false ∧
        action = .checkStop false reading) ∨
      (thread.control = .retryWaiting ∧ action = .waited false reading)) :
    DeliveryAfter processedBefore log thread action (thread.tryConnect reading) := by
  have accounted := delivery.accounted
  unfold Accounted at accounted
  rcases stands with ⟨stands, apart, -⟩ | ⟨stands, -⟩
  · rw [stands] at accounted
    exact delivery.silent stands (by simp) (by simp) rfl ⟨fun _ => apart, rfl, accounted.2⟩
  · rw [stands] at accounted
    exact delivery.silent stands (by simp) (by simp) rfl ⟨fun _ => accounted.1, rfl, accounted.2⟩

/-- A wait leads back to the loop. -/
theorem Delivery.step_loop (delivery : Delivery processedBefore log thread) {signalled : Bool}
    (stands : (thread.control = .retryWaiting ∧ signalled = true) ∨
      (thread.control = .errorWaiting ∧ signalled = false)) :
    DeliveryAfter processedBefore log thread action { thread with control := .looping } := by
  have accounted := delivery.accounted
  unfold Accounted at accounted
  rcases stands with ⟨stands, -⟩ | ⟨stands, -⟩
  all_goals
    rw [stands] at accounted
    exact delivery.silent stands (by simp) (by simp) rfl
      ⟨fun connected => absurd (accounted.1.symm.trans connected) Bool.false_ne_true, accounted.2⟩

/-- A `Poll` returns true. -/
theorem Delivery.step_polled (delivery : Delivery processedBefore log thread)
    {caller : PollCaller} {timeOut : TimeOut} {time loopTime : Reading}
    {readings : StateMachineBase.PollReadings} {reset : Reading}
    (stands : thread.control = .polling caller (.polling timeOut))
    (stepped : thread.step (.checkTime time loopTime readings reset) =
      some (thread.polled caller)) :
    DeliveryAfter processedBefore log thread (.checkTime time loopTime readings reset)
      (thread.polled caller) := by
  cases caller with
  | disconnect tmout => exact delivery.disconnecting stands rfl id
  | connectionThread =>
    have accounted := delivery.accounted
    unfold Accounted at accounted
    rw [stands] at accounted
    by_cases none : thread.object.xmpp.lstCallEvents = [] ∧
      thread.object.xmpp.lstInitEvents = []
    · have result : thread.polled .connectionThread = { thread with control := .looping } :=
        if_pos none
      rw [result] at stepped ⊢
      have marks : thread.pollMarks (.checkTime time loopTime readings reset) =
        [.returned true] := pollMarks_returned stands stepped rfl rfl
      exact delivery.pollReturns stands marks ⟨fun _ => none.1, rfl⟩ (accounted ▸ none.1.symm)
    · have result : thread.polled .connectionThread =
          { thread with
            control := .processing thread.object.xmpp.lstCallEvents
            object := thread.object.clearEvents } := if_neg none
      rw [result] at stepped ⊢
      have marks : thread.pollMarks (.checkTime time loopTime readings reset) =
        [.returned true] := pollMarks_returned stands stepped rfl rfl
      exact delivery.pollReturns stands marks ⟨rfl, rfl⟩ accounted

/-- A step within a `Poll` other than one of the calls -/
theorem Delivery.step_polling (delivery : Delivery processedBefore log thread)
    {caller : PollCaller} {before after : PollControl}
    (stands : thread.control = .polling caller before) {object : OnSipXmpp}
    (kept : thread.object.xmpp.Kept object.xmpp)
    (stepped : thread.step action =
      some { thread with control := .polling caller after, object := object }) :
    DeliveryAfter processedBefore log thread action
      { thread with control := .polling caller after, object := object } := by
  cases caller with
  | connectionThread => exact delivery.pollGoesOn stands rfl stepped kept
  | disconnect tmout => exact delivery.disconnecting stands rfl id

/-- A `Poll` returns false. -/
theorem Delivery.step_pollFailed (delivery : Delivery processedBefore log thread)
    {caller : PollCaller} {timeOut : TimeOut} {error : ConnectionError}
    (stands : thread.control = .polling caller (.receiving timeOut))
    (stepped : thread.step (.received error) = some (thread.pollFailed caller)) :
    DeliveryAfter processedBefore log thread (.received error) (thread.pollFailed caller) := by
  cases caller with
  | disconnect tmout => exact delivery.disconnecting stands rfl id
  | connectionThread =>
    have marks : thread.pollMarks (.received error) = [.returned false] :=
      pollMarks_returned stands stepped rfl rfl
    exact delivery.pollReturns stands marks ⟨rfl, rfl⟩ rfl

theorem Delivery.step_processEvent (delivery : Delivery processedBefore log thread)
    {notification : CallNotification} {rest : List CallNotification}
    (stands : thread.control = .processing (notification :: rest)) :
    DeliveryAfter processedBefore log thread .processEvent
      { thread with control := .processing rest } := by
  have accounted := delivery.accounted
  unfold Accounted at accounted
  rw [stands] at accounted
  refine delivery.outside (by simp [stands]) ?_ accounted
  simp [processed, pending, stands]

theorem Delivery.step_updateState (delivery : Delivery processedBefore log thread)
    (stands : thread.control = .processing []) :
    DeliveryAfter processedBefore log thread .updateState thread.updateState := by
  have accounted := delivery.accounted
  unfold Accounted at accounted
  rw [stands] at accounted
  have next : thread.updateState.Accounted log ∧ thread.updateState.pending = [] := by
    unfold updateState
    dsimp only
    split_ifs
    · exact ⟨⟨fun _ => accounted.1, accounted.2⟩, rfl⟩
    · exact ⟨⟨rfl, accounted.2⟩, rfl⟩
    · exact ⟨⟨fun _ => accounted.1, accounted.2⟩, rfl⟩
  refine delivery.outside (by simp [stands]) ?_ next.1
  rw [next.2, pending, stands]
  rfl

/-- The loop of `Disconnect` goes on, or ends. -/
theorem Delivery.step_disconnecting (delivery : Delivery processedBefore log thread)
    {tmout : TimeOut} (stands : thread.control = .disconnecting tmout)
    (pending : next.pending = []) (accounted : log.current = [] → next.Accounted log) :
    DeliveryAfter processedBefore log thread action next := by
  have current := delivery.accounted
  unfold Accounted at current
  rw [stands] at current
  exact delivery.silent stands (by simp) (by simp) pending (accounted current)

theorem Delivery.step_disconnected (delivery : Delivery processedBefore log thread) {last : Bool}
    (stands : thread.control = .cleaning last) :
    DeliveryAfter processedBefore log thread .disconnected
      { thread with control := if last then .exited else .looping } := by
  have accounted := delivery.accounted
  unfold Accounted at accounted
  rw [stands] at accounted
  cases last with
  | true => exact delivery.silent stands (by simp) (by simp) rfl accounted
  | false =>
    refine delivery.silent stands (by simp) (by simp) rfl ⟨?_, accounted.2⟩
    exact fun connected => absurd (accounted.1.symm.trans connected) Bool.false_ne_true

/-- Every step keeps the delivery. -/
theorem Delivery.step (delivery : Delivery processedBefore log thread)
    (stepped : thread.step action = some next) :
    DeliveryAfter processedBefore log thread action next := by
  cases transition_of_step stepped with
  | init stands called =>
    have initialized := accounted_initialized delivery.accounted stands called
    exact delivery.silent stands (by simp) (by simp) initialized.2 initialized.1
  | otherCall alive other called => exact delivery.step_otherCall other called stepped
  | pollCall stands called => exact delivery.step_pollCall stands called stepped
  | arrive stands => exact delivery.step_arrive _ stands stepped
  | stop stands reads => exact delivery.step_stop _ stands
  | poll stands => exact delivery.step_poll _ stands
  | tryConnect stands => exact delivery.step_tryConnect _ stands
  | loop stands => exact delivery.step_loop stands
  | polled stands => exact delivery.step_polled stands stepped
  | pollInit stands =>
    exact delivery.step_polling stands (OnSipXmpp.kept_pollInit _ thread.object) stepped
  | receive stands => exact delivery.step_polling stands (Xmpp.Kept.refl _) stepped
  | received stands => exact delivery.step_polling stands (Xmpp.Kept.refl _) stepped
  | pollFailed stands fails => exact delivery.step_pollFailed stands stepped
  | processEvent stands => exact delivery.step_processEvent stands
  | updateState stands => exact delivery.step_updateState stands
  | cleanup stands => exact delivery.step_disconnecting stands rfl id
  | pollShutdown stands => exact delivery.step_disconnecting stands rfl id
  | disconnected stands => exact delivery.step_disconnected stands

end delivery

/-- The notifications that are passed to `_processEvent` are those of the polls of the loop that
have returned true, each once and in the order in which they were given. Those that
`InitOnSipTapi` finds are not among them. -/
theorem processed_of_polls {reading : Reading} {loginInfo : LoginInfo}
    {actions : List ThreadAction} {thread : ConnectionThread}
    (reached : run ConnectionThread.step actions (ConnectionThread.new reading loginInfo) =
      some thread) :
    outputs ConnectionThread.step processed actions (ConnectionThread.new reading loginInfo) ++
        thread.pending =
      (PollLog.of (outputs ConnectionThread.step pollMarks actions
        (ConnectionThread.new reading loginInfo))).succeeded := by
  have start : Delivery [] (PollLog.of []) (ConnectionThread.new reading loginInfo) :=
    ⟨⟨fun later => absurd later (by decide), rfl, rfl⟩, rfl⟩
  refine Delivery.succeeded (run_history (motive := fun past thread =>
    Delivery (outputs ConnectionThread.step processed past
        (ConnectionThread.new reading loginInfo))
      (PollLog.of (outputs ConnectionThread.step pollMarks past
        (ConnectionThread.new reading loginInfo))) thread) start ?_ reached)
  intro past middle action next reachedMiddle stepped delivery
  rw [outputs_snoc reachedMiddle stepped, outputs_snoc reachedMiddle stepped, PollLog.of_append]
  exact delivery.step stepped

end ConnectionThread

/-! ### Concrete runs -/

namespace Example

/-- A call rings while the thread logs in. -/
def ringDuringLogIn : List ThreadAction :=
  threadLogIn [arrivalAt 320 (activeCall "a" "call" .requested)
    (fromConnection_activeCall "a" "call" .requested)]

/-- A call rings in the first `Poll` of the loop. -/
def ringAfterLogIn : List ThreadAction :=
  threadLogIn [] ++ .checkStop false (reading 1000) :: pollLoop 1010 ++
    [.arrive (arrivalAt 1020 (activeCall "a" "call" .requested)
        (fromConnection_activeCall "a" "call" .requested)), .received .connNoError,
      .checkTime (reading 2000) (reading 2000) (.still (reading 2000)) (reading 2000),
      .processEvent]

end Example

namespace ConnectionThread

/-- The notification of a call that rings during the login is lost. -/
theorem processed_ringDuringLogIn :
    ¬ ∀ (reading : Reading) (loginInfo : LoginInfo) (actions : List ThreadAction)
      (thread : ConnectionThread),
      run ConnectionThread.step actions (ConnectionThread.new reading loginInfo) = some thread →
      thread.control ≠ .exited →
      outputs ConnectionThread.step processed actions (ConnectionThread.new reading loginInfo) ++
          thread.pending ++ thread.object.xmpp.lstCallEvents =
        callNotifications thread.object.xmpp.effects := by
  intro claim
  have reached : run ConnectionThread.step Example.ringDuringLogIn
    (ConnectionThread.new (Example.reading 0) Example.login) = some _ := rfl
  have all := claim _ _ _ _ reached (by decide)
  revert all
  decide

theorem processed_ringAfterLogIn :
    ∃ thread, run ConnectionThread.step Example.ringAfterLogIn
        (ConnectionThread.new (Example.reading 0) Example.login) = some thread ∧
      (outputs ConnectionThread.step processed Example.ringAfterLogIn
        (ConnectionThread.new (Example.reading 0) Example.login)).length = 1 ∧
      outputs ConnectionThread.step processed Example.ringAfterLogIn
          (ConnectionThread.new (Example.reading 0) Example.login) ++ thread.pending =
        (PollLog.of (outputs ConnectionThread.step pollMarks Example.ringAfterLogIn
          (ConnectionThread.new (Example.reading 0) Example.login))).succeeded := by
  have reached : run ConnectionThread.step Example.ringAfterLogIn
    (ConnectionThread.new (Example.reading 0) Example.login) = some _ := rfl
  exact ⟨_, reached, by decide, processed_of_polls reached⟩

end ConnectionThread

end JnTapi
