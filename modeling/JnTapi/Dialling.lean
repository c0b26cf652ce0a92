/-
This file proves when the thread sends commands for calls to the server.

The call machine takes up the requests of other threads whenever it is polled, and
it is polled side by side with the login machine, which it does not ask. So a
command is sent only while a session lasts that has connected, and it may be sent
before the login has succeeded.
-/

import JnTapi.Call.Commands
import JnTapi.Init.Facts
import JnTapi.Orphans
import JnTapi.ConnectionThread

namespace JnTapi

open Library

/-! ### The object -/

theorem Xmpp.Emits.callCommands_eq {allowed : Effect → Prop} {before after : Xmpp}
    (emits : before.Emits allowed after)
    (apart : ∀ effect, allowed effect → effect.isCallCommand = false) :
    after.callCommands = before.callCommands :=
  emits.filter_eq apart

/-- Every call of the login machine sends no command of a call. -/
theorem initVirtuals_callCommands :
    initVirtuals.Changes fun before after => after.callCommands = before.callCommands := by
  refine initVirtuals_changes (fun left right => right.trans left)
    (fun loginOnly => loginOnly.emits.callCommands_eq fun _ => id) ?_
  intro notification xmpp
  show (xmpp.emit (.initStateChange notification)).callCommands = xmpp.callCommands
  exact (@Xmpp.Emits.emit (·.isCallCommand = false) _ rfl xmpp).callCommands_eq fun _ => id

namespace OnSipXmpp

theorem callCommands_pollInit (readings : StateMachineBase.PollReadings) (object : OnSipXmpp) :
    (object.pollInit readings).xmpp.callCommands = object.xmpp.callCommands :=
  initVirtuals_callCommands.pollMachine readings object.initStateMachine object.xmpp

theorem callCommands_signalCalls (readings : Readings) {event : XmppEvent}
    (other : ∀ callId, event.data ≠ .dropRequest callId) (object : OnSipXmpp) :
    (object.signalCalls readings event).xmpp.callCommands = object.xmpp.callCommands := by
  have signalled := CallHandler.emits_signalEvent readings event false object.calls.stateHandlers
    object.xmpp
  unfold signalCalls
  split
  case h_1 next outcome =>
    rw [outcome] at signalled
    exact signalled.callCommands_eq fun _ answer => answer.isCallCommand_eq other
  case h_2 handlers xmpp outcome =>
    rw [outcome] at signalled
    exact (signalled.trans (CallHandler.emits_deleteEvent event xmpp)).callCommands_eq
      fun _ answer => answer.isCallCommand_eq other

/-- Nothing that the connection delivers makes the object send a command of a call. -/
theorem callCommands_arrive (arrival : Arrival) (object : OnSipXmpp) :
    (object.arrive arrival).xmpp.callCommands = object.xmpp.callCommands := by
  cases arrival with
  | event initReadings callReadings event fromConnection =>
    have first := initVirtuals_callCommands.signalEvent initReadings
      { event with context := object.loginContext + event.context } false
      object.initStateMachine.stateHandlers object.xmpp
    have other : ∀ callId, event.data ≠ .dropRequest callId := by
      intro callId request
      rw [request] at fromConnection
      cases fromConnection
    rw [arrive]
    rcases object.signalEvent_cases initReadings callReadings
      { event with context := object.loginContext + event.context } with ⟨-, same⟩ | ⟨-, same⟩
    · rw [same]
      exact first
    · rw [same]
      refine (callCommands_signalCalls callReadings ?_ _).trans first
      exact other
  | workerReply index event => rfl
  | workerMessage event => rfl

theorem callCommands_removeStateHandlers (object : OnSipXmpp) :
    object.removeStateHandlers.xmpp.callCommands = object.xmpp.callCommands := by
  unfold removeStateHandlers StateMachineBase.removeStateHandlers
  rw [removeStateHandlers_initVirtuals]
  exact (CallHandler.emits_removeStateHandlers object.calls.stateHandlers
    object.xmpp).callCommands_eq fun _ routine => routine.isCallCommand_eq

theorem callsOnly_callCommands : CallsOnly fun object => object.xmpp.callCommands where
  arrive := callCommands_arrive
  pollInit := callCommands_pollInit
  resetConnectLoop _ _ := rfl
  clearEvents _ := rfl
  start _ _ := callCommands_removeStateHandlers
  asyncShutdown _ := rfl
  cleanup := callCommands_removeStateHandlers

end OnSipXmpp

/-- The step takes up a request of another thread to make or to drop a call. -/
def CallSystem.TakesUp (system : CallSystem) (action : CallAction) : Prop :=
  (∃ readings request rest, action = .handleRequest readings ∧
    system.polling = .handlingRequests (request :: rest)) ∨
  ∃ readings event rest callId, action = .signalNext readings ∧
    system.polling = .signallingEvents (event :: rest) ∧ event.data = .dropRequest callId

/-- A step of the call machine that sends commands takes up a request. -/
theorem OnSipXmpp.takesUp_of_sends {object next : OnSipXmpp} {action : CallAction}
    (stepped : object.step (.call action) = some next)
    (sends : next.xmpp.callCommands ≠ object.xmpp.callCommands) :
    object.calls.TakesUp action := by
  obtain ⟨outside, calls, called, rfl⟩ := step_call.mp stepped
  rcases CallSystem.emits_step called with
    handled | ⟨readings, event, deleteEventData, signals, answers⟩ | routine
  · exact Or.inl handled
  · by_cases request : ∃ callId, event.data = .dropRequest callId
    · obtain ⟨callId, request⟩ := request
      cases action with
      | signalNext given =>
        obtain ⟨first, rest, pending, -⟩ := CallSystem.step_signalNext.mp called
        rw [CallSystem.signalOf, pending] at signals
        cases signals
        exact Or.inr ⟨_, _, rest, callId, rfl, pending, request⟩
      | signalEvent => cases outside
      | _ => cases signals
    · exact absurd (answers.callCommands_eq fun _ answer =>
        answer.isCallCommand_eq fun callId same => request ⟨callId, same⟩) sends
  · exact absurd (routine.callCommands_eq fun _ routine => routine.isCallCommand_eq) sends

/-! ### The sessions -/

/-- What happens to the session of the connection. -/
inductive SessionMark
  /-- `Start` begins. -/
  | started
  /-- The connect has succeeded. -/
  | connected
  /-- The connect or a `Poll` has failed. -/
  | failed
  /-- `AsyncCleanup` has disconnected. -/
  | disconnected
deriving DecidableEq

/-- The session lasts: its connect has succeeded, and it has neither failed nor ended since. -/
def SessionLasts (marks : List SessionMark) : Prop := marks.getLast? = some .connected

namespace InitCall

/-- What the step of `InitOnSipTapi` does to the session -/
def sessionMarks (control : InitControl) : InitAction → List SessionMark
  | .connected success =>
    match control with
    | .connecting => [if success then .connected else .failed]
    | _ => []
  | .received error =>
    match control with
    | .receiving _ => if error = .connNoError then [] else [.failed]
    | _ => []
  | _ => []

/-- Once its connect has succeeded, and until it fails, the function polls a session that lasts. -/
def InSession (marks : List SessionMark) (call : InitCall) : Prop :=
  match call.control with
  | .connecting | .returned false _ => True
  | _ => SessionLasts marks

theorem InSession.of_lasts {marks : List SessionMark} (lasts : SessionLasts marks)
    (call : InitCall) : call.InSession marks := by
  unfold InSession
  split <;> trivial

theorem InSession.step {marks : List SessionMark} {call next : InitCall} {action : InitAction}
    (inSession : call.InSession marks) (running : call.result = none)
    (stepped : call.step action = some next) :
    next.InSession (marks ++ sessionMarks call.control action) := by
  have apart : ∀ {P : Prop}, call.result.isSome ∧ P → False := by
    rintro P ⟨returned, -⟩
    rw [running] at returned
    cases returned
  cases action with
  | call action =>
    show next.InSession (marks ++ [])
    rw [List.append_nil]
    rcases step_call stepped with
      rfl | ⟨object, -, ⟨-, rfl⟩ | ⟨timeOut, reset, control, -, rfl⟩⟩
    · exact inSession
    · exact inSession
    · unfold InSession at inSession
      rw [control] at inSession
      exact inSession
  | arrive arrival =>
    show next.InSession (marks ++ [])
    rw [List.append_nil]
    rcases step_arrive stepped with returned | ⟨-, rfl⟩
    · exact (apart returned).elim
    · exact inSession
  | connected success =>
    rcases step_connected stepped with returned | ⟨control, rfl⟩
    · exact (apart returned).elim
    · rw [control]
      cases success with
      | true => exact List.getLast?_concat
      | false => exact True.intro
  | checkStop signalled reading =>
    show next.InSession (marks ++ [])
    rw [List.append_nil]
    rcases step_checkStop stepped with returned | ⟨control, rfl⟩
    · exact (apart returned).elim
    · unfold InSession at inSession
      rw [control] at inSession
      exact .of_lasts inSession _
  | checkTime time loopTime readings reset =>
    show next.InSession (marks ++ [])
    rw [List.append_nil]
    rcases step_checkTime stepped with returned | ⟨timeOut, control, -⟩
    · exact (apart returned).elim
    · unfold InSession at inSession
      rw [control] at inSession
      exact .of_lasts inSession _
  | received error =>
    rcases step_received stepped with returned | ⟨timeOut, control, rfl⟩
    · exact (apart returned).elim
    · unfold InSession at inSession
      rw [control] at inSession
      rw [control, sessionMarks]
      by_cases fine : error = .connNoError
      · simp only [if_pos fine, List.append_nil]
        exact inSession
      · simp only [if_neg fine]
        exact True.intro

end InitCall

namespace ConnectionThread

/-- What the step does to the session -/
def sessionMarks (thread : ConnectionThread) : ThreadAction → List SessionMark
  | .init action =>
    match thread.control with
    | .initializing _ control => InitCall.sessionMarks control action
    | _ => []
  | .received error =>
    match thread.control with
    | .polling _ (.receiving _) => if error = .connNoError then [] else [.failed]
    | _ => []
  | .checkStop signalled _ =>
    match thread.control with
    | .looping => if signalled ∨ thread.fConnected then [] else [.started]
    | _ => []
  | .waited signalled _ =>
    match thread.control with
    | .retryWaiting => if signalled then [] else [.started]
    | _ => []
  | .disconnected => [.disconnected]
  | _ => []

/-- While the thread is connected, its session lasts. -/
def InSession (marks : List SessionMark) (thread : ConnectionThread) : Prop :=
  match thread.control with
  | .initializing first control => (first = false → thread.fConnected = false) ∧
      InitCall.result ⟨control, thread.object⟩ = none ∧
      InitCall.InSession marks ⟨control, thread.object⟩
  | .looping => thread.fConnected = true → SessionLasts marks
  | .connected | .polling _ _ | .processing _ | .disconnecting _ => SessionLasts marks
  | .retryWaiting | .errorWaiting | .cleaning false => thread.fConnected = false
  | .cleaning true | .exited => True

theorem inSession_initialized {marks : List SessionMark} {thread : ConnectionThread} {first : Bool}
    {call : InitCall} (later : first = false → thread.fConnected = false)
    (inSession : call.InSession marks) : (thread.initialized first call).InSession marks := by
  obtain ⟨control, object⟩ := call
  cases control with
  | returned initialized stateType =>
    cases initialized with
    | true =>
      cases first with
      | true => exact fun _ => inSession
      | false => exact inSession
    | false =>
      cases first with
      | true => exact True.intro
      | false => exact later rfl
  | _ => exact ⟨later, rfl, inSession⟩

section step

variable {marks : List SessionMark} {thread next : ConnectionThread} {action : ThreadAction}

/-- What the thread has found where it stands. -/
theorem InSession.lasts (inSession : thread.InSession marks)
    (stands : (∃ caller control, thread.control = .polling caller control) ∨
      (∃ lstCallEvents, thread.control = .processing lstCallEvents) ∨
      ∃ tmout, thread.control = .disconnecting tmout) : SessionLasts marks := by
  unfold InSession at inSession
  rcases stands with ⟨caller, control, stands⟩ | ⟨lstCallEvents, stands⟩ | ⟨tmout, stands⟩
  · rw [stands] at inSession
    exact inSession
  · rw [stands] at inSession
    exact inSession
  · rw [stands] at inSession
    exact inSession

/-- A step that does nothing to the session. -/
theorem InSession.silent (silent : thread.sessionMarks action = [])
    (inSession : next.InSession marks) :
    next.InSession (marks ++ thread.sessionMarks action) := by
  rw [silent, List.append_nil]
  exact inSession

theorem InSession.otherCall (inSession : thread.InSession marks) (object : OnSipXmpp) :
    InSession marks { thread with object := object } := by
  obtain ⟨control, fConnected, initStateType, loginInfo, before⟩ := thread
  cases control with
  | cleaning last => cases last <;> exact inSession
  | _ => exact inSession

/-- Every step keeps the session of the thread. -/
theorem InSession.step (inSession : thread.InSession marks)
    (stepped : thread.step action = some next) :
    next.InSession (marks ++ thread.sessionMarks action) := by
  have found := inSession
  unfold InSession at found
  cases transition_of_step stepped with
  | @init first control action call stands called =>
    rw [stands] at found
    obtain ⟨later, running, inCall⟩ := found
    have same : thread.sessionMarks (.init action) = InitCall.sessionMarks control action := by
      rw [sessionMarks, stands]
    rw [same]
    exact inSession_initialized later (inCall.step running called)
  | otherCall alive other called => exact .silent rfl (inSession.otherCall _)
  | @pollCall caller timeOut reset action object stands called =>
    refine .silent rfl ?_
    have lasts := inSession.lasts (Or.inl ⟨_, _, stands⟩)
    unfold afterCall
    split
    · exact lasts
    · unfold InSession
      rw [stands]
      exact lasts
  | arrive stands => exact .silent rfl (inSession.otherCall _)
  | @stop reading stands action reads =>
    have ends : (thread.disconnect reading).InSession marks := by
      unfold disconnect
      split_ifs with connected
      · rcases stands with stands | stands
        · rw [stands] at found
          exact found connected
        · rw [stands] at found
          exact absurd (found.symm.trans connected) Bool.false_ne_true
      · exact True.intro
    refine .silent ?_ ends
    rcases stands with stands | stands <;> rcases reads with rfl | rfl <;>
      simp [sessionMarks, stands]
  | poll stands =>
    rcases stands with ⟨stands, connected, rfl⟩ | ⟨stands, rfl⟩
    · rw [stands] at found
      refine .silent ?_ (found connected)
      simp [sessionMarks, stands, connected]
    · rw [stands] at found
      exact .silent rfl found
  | tryConnect stands =>
    have apart : thread.fConnected = false := by
      rcases stands with ⟨-, apart, -⟩ | ⟨stands, -⟩
      · exact apart
      · rw [stands] at found
        exact found
    exact ⟨fun _ => apart, rfl, True.intro⟩
  | loop stands =>
    have apart : thread.fConnected = false := by
      rcases stands with ⟨stands, -⟩ | ⟨stands, -⟩
      · rw [stands] at found
        exact found
      · rw [stands] at found
        exact found
    exact fun connected => absurd (apart.symm.trans connected) Bool.false_ne_true
  | @polled caller timeOut time loopTime readings reset stands =>
    have lasts := inSession.lasts (Or.inl ⟨_, _, stands⟩)
    refine .silent rfl ?_
    cases caller with
    | connectionThread =>
      unfold polled
      dsimp only
      split_ifs
      · exact fun _ => lasts
      · exact lasts
    | disconnect tmout => exact lasts
  | pollInit stands => exact .silent rfl (inSession.lasts (Or.inl ⟨_, _, stands⟩))
  | receive stands => exact .silent rfl (inSession.lasts (Or.inl ⟨_, _, stands⟩))
  | received stands =>
    have lasts := inSession.lasts (Or.inl ⟨_, _, stands⟩)
    refine .silent ?_ lasts
    simp [sessionMarks, stands]
  | @pollFailed caller timeOut error stands fails =>
    cases caller with
    | connectionThread => exact rfl
    | disconnect tmout => exact True.intro
  | processEvent stands => exact .silent rfl (inSession.lasts (Or.inr (Or.inl ⟨_, stands⟩)))
  | updateState stands =>
    have lasts := inSession.lasts (Or.inr (Or.inl ⟨_, stands⟩))
    refine .silent rfl ?_
    unfold updateState
    dsimp only
    split_ifs
    · exact fun _ => lasts
    · exact rfl
    · exact fun _ => lasts
  | cleanup stands => exact True.intro
  | pollShutdown stands => exact .silent rfl (inSession.lasts (Or.inr (Or.inr ⟨_, stands⟩)))
  | @disconnected last stands =>
    rw [stands] at found
    cases last with
    | true => exact True.intro
    | false => exact fun connected => absurd (found.symm.trans connected) Bool.false_ne_true

end step

/-! ### The steps that send commands -/

theorem not_takesUp_otherThread {system : CallSystem} {action : CallAction}
    (other : InitCall.otherThread action = true) : ¬ system.TakesUp action := by
  rintro (⟨readings, request, rest, rfl, -⟩ | ⟨readings, event, rest, callId, rfl, -⟩)
  · cases other
  · cases other

/-- A step that sends commands is one of the poll of the calls. -/
theorem pollsCalls_of_sends {thread next : ConnectionThread} {action : ThreadAction}
    (stepped : thread.step action = some next)
    (sends : next.object.xmpp.callCommands ≠ thread.object.xmpp.callCommands) :
    ∃ callAction object, thread.pollsCalls action = some callAction ∧
      thread.object.step (.call callAction) = some object ∧
      next.object.xmpp.callCommands = object.xmpp.callCommands := by
  rcases step_view OnSipXmpp.callsOnly_callCommands stepped with
    same | ⟨callAction, object, place, called, same⟩
  · exact absurd same sends
  · refine ⟨callAction, object, ?_, called, same⟩
    have takesUp := OnSipXmpp.takesUp_of_sends called (same ▸ sends)
    exact place.resolve_right fun other => not_takesUp_otherThread other.2 takesUp

/-- The thread sends commands for calls only while a session lasts that has connected, and only to
take up a request in the poll of the calls. -/
theorem commands_in_session {reading : Reading} {loginInfo : LoginInfo}
    {actions : List ThreadAction} {thread next : ConnectionThread} {action : ThreadAction}
    (reached : run ConnectionThread.step actions (ConnectionThread.new reading loginInfo) =
      some thread)
    (stepped : thread.step action = some next)
    (sends : next.object.xmpp.callCommands ≠ thread.object.xmpp.callCommands) :
    SessionLasts (outputs ConnectionThread.step sessionMarks actions
        (ConnectionThread.new reading loginInfo)) ∧
      ∃ callAction, thread.pollsCalls action = some callAction ∧
        thread.object.calls.TakesUp callAction := by
  have inSession : thread.InSession (outputs ConnectionThread.step sessionMarks actions
      (ConnectionThread.new reading loginInfo)) := by
    refine run_history (motive := fun past thread =>
      InSession (outputs ConnectionThread.step sessionMarks past
        (ConnectionThread.new reading loginInfo)) thread) ?_ ?_ reached
    · exact ⟨fun later => absurd later (by decide), rfl, True.intro⟩
    · intro past middle action next reachedMiddle stepped inSession
      rw [outputs_snoc reachedMiddle stepped]
      exact inSession.step stepped
  obtain ⟨callAction, object, polls, called, same⟩ := pollsCalls_of_sends stepped sends
  rw [same] at sends
  refine ⟨?_, callAction, polls, OnSipXmpp.takesUp_of_sends called sends⟩
  unfold InSession at inSession
  unfold pollsCalls at polls
  split at polls
  case h_1 action =>
    split at polls
    case h_1 first timeOut reset stands =>
      rw [stands] at inSession
      exact inSession.2.2
    case h_2 => cases polls
  case h_2 action =>
    split at polls
    case h_1 caller timeOut reset stands =>
      rw [stands] at inSession
      exact inSession
    case h_2 => cases polls
  case h_3 => cases polls

/-- The call for which the step sends a `create` command, if it sends one -/
def createdCall (thread : ConnectionThread) (action : ThreadAction) : Option Long :=
  match thread.pollsCalls action, thread.object.calls.polling, thread.step action with
  | some (.handleRequest _), .handlingRequests (request :: _), some next =>
    if next.object.xmpp.creates = thread.object.xmpp.creates then none else some request.callId
  | _, _, _ => none

theorem of_createdCall {thread : ConnectionThread} {action : ThreadAction} {callId : Long}
    (created : thread.createdCall action = some callId) :
    ∃ readings request rest, thread.pollsCalls action = some (.handleRequest readings) ∧
      thread.object.calls.polling = .handlingRequests (request :: rest) ∧
      callId = request.callId := by
  unfold createdCall at created
  split at created
  case h_1 readings request rest next polls pending stepped =>
    split_ifs at created
    exact ⟨readings, request, rest, polls, pending, (Option.some.inj created).symm⟩
  case h_2 => cases created

/-- Every `create` command is sent for a call. -/
theorem createdCall_of_creates {thread next : ConnectionThread} {action : ThreadAction}
    (stepped : thread.step action = some next)
    (creates : next.object.xmpp.creates ≠ thread.object.xmpp.creates) :
    ∃ callId, thread.createdCall action = some callId := by
  have sends : next.object.xmpp.callCommands ≠ thread.object.xmpp.callCommands :=
    fun same => creates (Xmpp.creates_eq same)
  obtain ⟨callAction, object, polls, called, same⟩ := pollsCalls_of_sends stepped sends
  obtain ⟨-, calls, moves, rfl⟩ := OnSipXmpp.step_call.mp called
  have moved : calls.xmpp.creates ≠ thread.object.xmpp.creates :=
    fun unmoved => creates ((Xmpp.creates_eq same).trans unmoved)
  rcases CallSystem.emits_step moves with
    ⟨readings, request, rest, rfl, pending⟩ | ⟨readings, event, deleteEventData, -, answers⟩ |
    routine
  · refine ⟨request.callId, ?_⟩
    rw [createdCall, polls, pending, stepped]
    exact if_neg creates
  · refine absurd (answers.filter_eq ?_) moved
    rintro effect (⟨deleted | notified⟩ | terminate) <;> rfl
  · refine absurd (routine.filter_eq ?_) moved
    rintro effect (deleted | notified) <;> rfl

end ConnectionThread

/-! ### Concrete runs -/

namespace Example

/-- A call is made while the thread connects for the first time, and the first `Poll` takes up the
request. -/
def requestInLogIn : List ThreadAction :=
  [.init (.call (.drawCallId "123".toList)), .init (.call (.addCallHandler 0 (reading 0))),
    .init (.connected true), .init (.checkStop false (reading 0)),
    .init (.checkTime (reading 300) (reading 300) (.still (reading 300)) (reading 300)),
    .init (.call .testRequests), .init (.call .takeRequests)]

def handleRequest : ThreadAction := .init (.call (.handleRequest ⟨reading 300, reading 300⟩))

end Example

namespace ConnectionThread

theorem commands_in_session_requestInLogIn :
    ∃ thread next, run ConnectionThread.step Example.requestInLogIn
        (ConnectionThread.new (Example.reading 0) Example.login) = some thread ∧
      thread.step Example.handleRequest = some next ∧
      SessionLasts (outputs ConnectionThread.step sessionMarks Example.requestInLogIn
        (ConnectionThread.new (Example.reading 0) Example.login)) := by
  have reached : run ConnectionThread.step Example.requestInLogIn
    (ConnectionThread.new (Example.reading 0) Example.login) = some _ := rfl
  refine ⟨_, _, reached, rfl, ?_⟩
  exact (@commands_in_session _ _ _ _ _ Example.handleRequest reached rfl (by decide)).1

/-- A call may be dialled before the login has succeeded. -/
theorem commands_beforeLogIn :
    ¬ ∀ (reading : Reading) (loginInfo : LoginInfo) (actions : List ThreadAction)
      (action : ThreadAction) (thread next : ConnectionThread),
      run ConnectionThread.step actions (ConnectionThread.new reading loginInfo) = some thread →
      thread.step action = some next →
      next.object.xmpp.callCommands ≠ thread.object.xmpp.callCommands →
      ∃ handler, thread.object.drivers.getLast? = some handler ∧ handler.state = .ok := by
  intro claim
  have reached : run ConnectionThread.step Example.requestInLogIn
    (ConnectionThread.new (Example.reading 0) Example.login) = some _ := rfl
  obtain ⟨handler, last, ok⟩ :=
    claim _ _ _ Example.handleRequest _ _ reached rfl (by decide)
  obtain rfl := Option.some.inj last
  exact absurd ok (by decide)

end ConnectionThread

end JnTapi
