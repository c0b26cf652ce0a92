/-
This file models `OnSipTapi::InitOnSipTapi`: it starts a session and polls until
the login has succeeded or failed.

A step is one thing that the function finds outside: the outcome of the connect,
the stop event, the clock, an event of the connection, the outcome of `recv`. In
between, the poll of the calls goes its own steps, and other threads make and
drop calls.
-/

import JnTapi.OnSipXmpp

namespace JnTapi

/-- `gloox::ConnectionError` -/
inductive ConnectionError
  | connNoError
  | connStreamError
  | connStreamVersionError
  | connStreamClosed
  | connProxyAuthRequired
  | connProxyAuthFailed
  | connProxyNoSupportedAuth
  | connIoError
  | connParseError
  | connConnectionRefused
  | connDnsError
  | connOutOfMemory
  | connNoSupportedAuth
  | connTlsFailed
  | connTlsNotAvailable
  | connCompressionFailed
  | connAuthenticationFailed
  | connUserDisconnected
  | connNotConnected
deriving DecidableEq, Repr

/-! ### The events of a connection -/

/-- What the connection delivers. -/
inductive Arrival
  /-- An event for the state machines. Its context is given relative to the one that the last
  handler of the login has sent its request with. -/
  | event (initReadings callReadings : Readings) (event : XmppEvent)
      (fromConnection : event.data.fromConnection = true)
  /-- The reply to a renewal of the authorization -/
  | workerReply (index : Nat) (event : Option XmppEvent)
  /-- A message, as the workers see it -/
  | workerMessage (event : XmppEvent)

namespace OnSipXmpp

/-- The context of the last request of the login -/
def loginContext (object : OnSipXmpp) : Long :=
  match object.drivers.getLast? with
  | some handler => handler.contextId
  | none => 0

/-- The connection delivers something. -/
def arrive (arrival : Arrival) (object : OnSipXmpp) : OnSipXmpp :=
  match arrival with
  | .event initReadings callReadings event _ => object.signalEvent initReadings callReadings
      { event with context := object.loginContext + event.context }
  | .workerReply index event => object.workerReply index event
  | .workerMessage event => object.workerMessage event

theorem tmrConnectLoop_signalCalls (readings : Readings) (event : XmppEvent)
    (object : OnSipXmpp) :
    (object.signalCalls readings event).tmrConnectLoop = object.tmrConnectLoop := by
  unfold signalCalls
  split <;> rfl

/-- What arrives leaves the timer of the loop. -/
theorem tmrConnectLoop_arrive (arrival : Arrival) (object : OnSipXmpp) :
    (object.arrive arrival).tmrConnectLoop = object.tmrConnectLoop := by
  cases arrival with
  | event initReadings callReadings event fromConnection =>
    show (object.signalEvent initReadings callReadings _).tmrConnectLoop = _
    rcases object.signalEvent_cases initReadings callReadings
      { event with context := object.loginContext + event.context } with ⟨-, same⟩ | ⟨-, same⟩
    · rw [same]
      rfl
    · rw [same, tmrConnectLoop_signalCalls]
      rfl
  | workerReply index event => rfl
  | workerMessage event => rfl

end OnSipXmpp

/-! ### The function -/

/-- Where the thread stands in `InitOnSipTapi`. -/
inductive InitControl
  /-- In the connect of `OnSipXmppBase::Start` -/
  | connecting
  /-- At the head of the loop -/
  | waiting
  /-- In `Poll`, at the head of the loop of `AsyncPolling` with its time-out -/
  | polling (timeOut : TimeOut)
  /-- In `onConnectLoop`, at the poll of the call machine. The reading is that of the reset of the
  timer after it. -/
  | pollingCalls (timeOut : TimeOut) (reset : Reading)
  /-- In `recv` -/
  | receiving (timeOut : TimeOut)
  /-- The function has returned and has set `stateType`. -/
  | returned (initialized : Bool) (stateType : InitStatesType)
deriving DecidableEq, Repr

/-- A call of `InitOnSipTapi`. -/
structure InitCall where
  control : InitControl
  object : OnSipXmpp
deriving DecidableEq, Repr

/-- One step of the call. -/
inductive InitAction
  /-- A step of the poll of the calls, or of another thread -/
  | call (action : CallAction)
  | arrive (arrival : Arrival)
  /-- `m_gloox->connect` returns. -/
  | connected (success : Bool)
  /-- `WaitForSingleObject(hDevStop)` returns, and `AsyncPolling` begins if it is not signalled. -/
  | checkStop (signalled : Bool) (reading : Reading)
  /-- `AsyncPolling` checks its time-out and the timer of `onConnectLoop`. -/
  | checkTime (time loopTime : Reading) (readings : StateMachineBase.PollReadings) (reset : Reading)
  /-- `m_gloox->recv` returns. -/
  | received (error : ConnectionError)

namespace InitAction

/-- The action is something that the function itself finds. -/
def isInput : InitAction → Bool
  | .call _ => false
  | _ => true

end InitAction

namespace InitCall

/-- `OnSipXmppBase::Start` after its attempt to connect -/
def startResult (success : Bool) : ConnectionError :=
  if success then .connNoError else .connNotConnected

/-- The `stateType` for a failed `Connect` -/
def connectFailure (error : ConnectionError) : InitStatesType :=
  if error = .connAuthenticationFailed ∨ error = .connOutOfMemory then .fatal else .disconnected

/-- The call begins: `Connect` clears the events and starts the session. -/
def begin (reading : Reading) (loginInfo : LoginInfo) (object : OnSipXmpp) : InitCall :=
  ⟨.connecting, object.clearEvents.start reading loginInfo⟩

/-- The rest of the loop after a `Poll` without an error -/
def polled (object : OnSipXmpp) : InitCall :=
  let stateType := getInitStatesType object.xmpp.lastInitState
  if stateType = .disconnected ∨ stateType = .fatal then ⟨.returned false stateType, object⟩
  else if stateType = .ok then ⟨.returned true .ok, object.clearEvents⟩
  else ⟨.waiting, object⟩

/-- The threads that make and drop calls run at any time. -/
def otherThread : CallAction → Bool
  | .drawCallId _ | .addCallHandler _ _ | .dropCallAsync _ => true
  | _ => false

/-- Where the thread stands after a step of the poll of the calls: the last step of the poll
leads on to `recv`. -/
def afterCall (timeOut : TimeOut) (reset : Reading) (action : CallAction) (object : OnSipXmpp) :
    InitCall :=
  match action with
  | .pollHandlers _ => ⟨.receiving timeOut, object.resetConnectLoop reset⟩
  | _ => ⟨.pollingCalls timeOut reset, object⟩

/-- One step of the call; `none` when the thread does not stand where the step begins. A call that
has returned reads nothing more. -/
def step (call : InitCall) : InitAction → Option InitCall
  | .call action =>
    match call.control with
    | .returned _ _ => some call
    | .pollingCalls timeOut reset =>
      (call.object.step (.call action)).map (afterCall timeOut reset action)
    | control =>
      if otherThread action then (call.object.step (.call action)).map (⟨control, ·⟩) else none
  | .arrive arrival =>
    match call.control with
    | .returned _ _ => some call
    | .connecting | .receiving _ => some ⟨call.control, call.object.arrive arrival⟩
    | _ => none
  | .connected success =>
    match call.control with
    | .returned _ _ => some call
    | .connecting =>
      let error := startResult success
      if error = .connNoError then some ⟨.waiting, call.object⟩
      else some ⟨.returned false (connectFailure error), call.object⟩
    | _ => none
  | .checkStop signalled reading =>
    match call.control with
    | .returned _ _ => some call
    | .waiting =>
      if signalled then some ⟨.returned false .fatal, call.object⟩
      else some ⟨.polling (TimeOut.new reading 1000), call.object⟩
    | _ => none
  | .checkTime time loopTime readings reset =>
    match call.control with
    | .returned _ _ => some call
    | .polling timeOut =>
      if timeOut.isExpired time then some (polled call.object)
      else if call.object.tmrConnectLoop.isExpired loopTime then
        some ⟨.pollingCalls timeOut reset, call.object.pollInit readings⟩
      else some ⟨.receiving timeOut, call.object⟩
    | _ => none
  | .received error =>
    match call.control with
    | .returned _ _ => some call
    | .receiving timeOut =>
      if error = .connNoError then some ⟨.polling timeOut, call.object⟩
      else some ⟨.returned false .disconnected, call.object⟩
    | _ => none

/-- What the call has returned, if it has. -/
def result (call : InitCall) : Option (Bool × InitStatesType) :=
  match call.control with
  | .returned initialized stateType => some (initialized, stateType)
  | _ => none

/-! ### When a step is enabled, and what it leaves -/

section steps

variable {call next : InitCall}

/-- A step of the calls is one of the object's, and only the last step of the poll of the calls
moves the thread on. -/
theorem step_call {action : CallAction} (stepped : call.step (.call action) = some next) :
    next = call ∨ ∃ object, call.object.step (.call action) = some object ∧
      ((((∃ timeOut reset, call.control = .pollingCalls timeOut reset) ∨
          otherThread action = true) ∧ next = ⟨call.control, object⟩) ∨
        ∃ timeOut reset, call.control = .pollingCalls timeOut reset ∧
          object.calls.polling = .idle ∧
          next = ⟨.receiving timeOut, object.resetConnectLoop reset⟩) := by
  have alone : ∀ control, (if otherThread action
      then (call.object.step (.call action)).map (InitCall.mk control) else none) = some next →
      ∃ object, call.object.step (.call action) = some object ∧ otherThread action = true ∧
        next = ⟨control, object⟩ := by
    intro control stepped
    split_ifs at stepped with other
    obtain ⟨object, called, rfl⟩ := Option.map_eq_some_iff.mp stepped
    exact ⟨object, called, other, rfl⟩
  rw [step] at stepped
  cases control : call.control with
  | returned initialized stateType =>
    rw [control] at stepped
    exact Or.inl (Option.some.inj stepped).symm
  | pollingCalls timeOut reset =>
    rw [control] at stepped
    obtain ⟨object, called, rfl⟩ := Option.map_eq_some_iff.mp stepped
    refine Or.inr ⟨object, called, ?_⟩
    cases action with
    | pollHandlers readings =>
      obtain ⟨-, calls, polled, rfl⟩ := OnSipXmpp.step_call.mp called
      obtain ⟨-, rfl⟩ := CallSystem.step_pollHandlers.mp polled
      exact Or.inr ⟨timeOut, reset, rfl, rfl, rfl⟩
    | _ => exact Or.inl ⟨Or.inl ⟨timeOut, reset, rfl⟩, rfl⟩
  | _ =>
    rw [control] at stepped
    obtain ⟨object, called, other, same⟩ := alone _ stepped
    exact Or.inr ⟨object, called, Or.inl ⟨Or.inr other, same⟩⟩

theorem step_arrive {arrival : Arrival} (stepped : call.step (.arrive arrival) = some next) :
    (call.result.isSome ∧ next = call) ∨
    (((∃ timeOut, call.control = .receiving timeOut) ∨ call.control = .connecting) ∧
      next = ⟨call.control, call.object.arrive arrival⟩) := by
  rw [step] at stepped
  unfold result
  cases control : call.control with
  | returned initialized stateType =>
    rw [control] at stepped
    exact Or.inl ⟨rfl, (Option.some.inj stepped).symm⟩
  | connecting =>
    rw [control] at stepped
    exact Or.inr ⟨Or.inr rfl, (Option.some.inj stepped).symm⟩
  | receiving timeOut =>
    rw [control] at stepped
    exact Or.inr ⟨Or.inl ⟨timeOut, rfl⟩, (Option.some.inj stepped).symm⟩
  | _ =>
    rw [control] at stepped
    cases stepped

theorem step_connected {success : Bool} (stepped : call.step (.connected success) = some next) :
    (call.result.isSome ∧ next = call) ∨
    (call.control = .connecting ∧ next =
      ⟨if success then .waiting else .returned false .disconnected, call.object⟩) := by
  rw [step] at stepped
  unfold result
  cases control : call.control with
  | returned initialized stateType =>
    rw [control] at stepped
    exact Or.inl ⟨rfl, (Option.some.inj stepped).symm⟩
  | connecting =>
    rw [control] at stepped
    cases success with
    | true => exact Or.inr ⟨rfl, (Option.some.inj stepped).symm⟩
    | false => exact Or.inr ⟨rfl, (Option.some.inj stepped).symm⟩
  | _ =>
    rw [control] at stepped
    cases stepped

theorem step_checkStop {signalled : Bool} {reading : Reading}
    (stepped : call.step (.checkStop signalled reading) = some next) :
    (call.result.isSome ∧ next = call) ∨
    (call.control = .waiting ∧ next =
      ⟨if signalled then .returned false .fatal else .polling (TimeOut.new reading 1000),
        call.object⟩) := by
  rw [step] at stepped
  unfold result
  cases control : call.control with
  | returned initialized stateType =>
    rw [control] at stepped
    exact Or.inl ⟨rfl, (Option.some.inj stepped).symm⟩
  | waiting =>
    rw [control] at stepped
    cases signalled with
    | true => exact Or.inr ⟨rfl, (Option.some.inj stepped).symm⟩
    | false => exact Or.inr ⟨rfl, (Option.some.inj stepped).symm⟩
  | _ =>
    rw [control] at stepped
    cases stepped

theorem step_checkTime {time loopTime : Reading} {readings : StateMachineBase.PollReadings}
    {reset : Reading} (stepped : call.step (.checkTime time loopTime readings reset) = some next) :
    (call.result.isSome ∧ next = call) ∨
    ∃ timeOut, call.control = .polling timeOut ∧
      ((timeOut.isExpired time = true ∧ next = polled call.object) ∨
        (timeOut.isExpired time = false ∧ call.object.tmrConnectLoop.isExpired loopTime = true ∧
          next = ⟨.pollingCalls timeOut reset, call.object.pollInit readings⟩) ∨
        (timeOut.isExpired time = false ∧ call.object.tmrConnectLoop.isExpired loopTime = false ∧
          next = ⟨.receiving timeOut, call.object⟩)) := by
  rw [step] at stepped
  unfold result
  cases control : call.control with
  | returned initialized stateType =>
    rw [control] at stepped
    exact Or.inl ⟨rfl, (Option.some.inj stepped).symm⟩
  | polling timeOut =>
    rw [control] at stepped
    dsimp only at stepped
    refine Or.inr ⟨timeOut, rfl, ?_⟩
    cases expired : timeOut.isExpired time with
    | true =>
      rw [if_pos expired] at stepped
      exact Or.inl ⟨rfl, (Option.some.inj stepped).symm⟩
    | false =>
      rw [if_neg (by simp [expired])] at stepped
      cases loops : call.object.tmrConnectLoop.isExpired loopTime with
      | true =>
        rw [if_pos loops] at stepped
        exact Or.inr (Or.inl ⟨rfl, rfl, (Option.some.inj stepped).symm⟩)
      | false =>
        rw [if_neg (by simp [loops])] at stepped
        exact Or.inr (Or.inr ⟨rfl, rfl, (Option.some.inj stepped).symm⟩)
  | _ =>
    rw [control] at stepped
    cases stepped

theorem step_received {error : ConnectionError}
    (stepped : call.step (.received error) = some next) :
    (call.result.isSome ∧ next = call) ∨
    ∃ timeOut, call.control = .receiving timeOut ∧ next =
      ⟨if error = .connNoError then .polling timeOut else .returned false .disconnected,
        call.object⟩ := by
  rw [step] at stepped
  unfold result
  cases control : call.control with
  | returned initialized stateType =>
    rw [control] at stepped
    exact Or.inl ⟨rfl, (Option.some.inj stepped).symm⟩
  | receiving timeOut =>
    rw [control] at stepped
    refine Or.inr ⟨timeOut, rfl, ?_⟩
    by_cases fine : error = .connNoError
    · rw [if_pos fine]
      exact (Option.some.inj ((if_pos fine).symm.trans stepped)).symm
    · rw [if_neg fine]
      exact (Option.some.inj ((if_neg fine).symm.trans stepped)).symm
  | _ =>
    rw [control] at stepped
    cases stepped

end steps

/-! ### The call as a run of the object -/

/-- Outside of the poll of the calls, the polling thread stands outside of their machine. -/
def Ready (call : InitCall) : Prop :=
  (∃ timeOut reset, call.control = .pollingCalls timeOut reset) ∨ call.object.calls.polling = .idle

theorem polling_step {object next : OnSipXmpp} {action : CallAction}
    (other : otherThread action = true) (stepped : object.step (.call action) = some next) :
    next.calls.polling = object.calls.polling := by
  obtain ⟨-, calls, called, rfl⟩ := OnSipXmpp.step_call.mp stepped
  cases action with
  | drawCallId phoneNumber =>
    obtain rfl := Option.some.inj called
    rfl
  | addCallHandler index reading =>
    obtain ⟨callId, phoneNumber, -, rfl⟩ := CallSystem.step_addCallHandler.mp called
    rfl
  | dropCallAsync callId =>
    obtain rfl := Option.some.inj called
    rfl
  | _ => cases other

theorem run_single {object next : OnSipXmpp} {action : OnSipXmpp.Action}
    (stepped : object.step action = some next) :
    Library.run OnSipXmpp.step [action] object = some next :=
  Library.run_cons_eq_some.mpr ⟨next, stepped, rfl⟩

theorem run_clearEvents {object : OnSipXmpp} (idle : object.calls.polling = .idle) :
    Library.run OnSipXmpp.step [.getCallEvents, .getInitEvents] object =
      some object.clearEvents := by
  refine Library.run_cons_eq_some.mpr ⟨_, OnSipXmpp.whenIdle_eq_some.mpr ⟨idle, rfl⟩, ?_⟩
  exact run_single (OnSipXmpp.whenIdle_eq_some.mpr ⟨idle, rfl⟩)

/-- A call that begins is a run of the object. -/
theorem run_begin (reading : Reading) (loginInfo : LoginInfo) {object : OnSipXmpp}
    (idle : object.calls.polling = .idle) :
    (begin reading loginInfo object).Ready ∧
      Library.run OnSipXmpp.step [.getCallEvents, .getInitEvents, .start reading loginInfo]
        object = some (begin reading loginInfo object).object := by
  refine ⟨Or.inr idle, ?_⟩
  have cleared := run_clearEvents idle
  have started : object.clearEvents.step (.start reading loginInfo) =
      some (object.clearEvents.start reading loginInfo) :=
    OnSipXmpp.whenIdle_eq_some.mpr ⟨idle, rfl⟩
  exact Library.run_append_eq_some.mpr ⟨_, cleared, run_single started⟩

theorem polling_signalCalls (readings : Readings) (event : XmppEvent) (object : OnSipXmpp) :
    (object.signalCalls readings event).calls.polling = object.calls.polling := by
  unfold OnSipXmpp.signalCalls
  split <;> rfl

/-- What arrives is one step of the object. -/
theorem run_arrive (arrival : Arrival) {object : OnSipXmpp} (idle : object.calls.polling = .idle) :
    (object.arrive arrival).calls.polling = .idle ∧
      ∃ action, object.step action = some (object.arrive arrival) := by
  cases arrival with
  | event initReadings callReadings event fromConnection =>
    refine ⟨?_, .signal initReadings callReadings _, OnSipXmpp.whenIdle_eq_some.mpr ⟨idle, rfl⟩⟩
    show (object.signalEvent initReadings callReadings _).calls.polling = _
    rcases object.signalEvent_cases initReadings callReadings
      { event with context := object.loginContext + event.context } with
      ⟨-, result⟩ | ⟨-, result⟩
    · rw [result]
      exact idle
    · rw [result, polling_signalCalls]
      exact idle
  | workerReply index event =>
    exact ⟨idle, .workerReply index event, OnSipXmpp.whenIdle_eq_some.mpr ⟨idle, rfl⟩⟩
  | workerMessage event =>
    exact ⟨idle, .workerMessage event, OnSipXmpp.whenIdle_eq_some.mpr ⟨idle, rfl⟩⟩

/-- A call that has finished a `Poll` leaves the object, or clears its events. -/
theorem run_polled {object : OnSipXmpp} (idle : object.calls.polling = .idle) :
    (polled object).Ready ∧
      ∃ actions, Library.run OnSipXmpp.step actions object = some (polled object).object := by
  unfold polled
  dsimp only
  split_ifs
  · exact ⟨Or.inr idle, [], rfl⟩
  · exact ⟨Or.inr idle, _, run_clearEvents idle⟩
  · exact ⟨Or.inr idle, [], rfl⟩

/-- Every step of the call is a run of the object. -/
theorem run_step {call next : InitCall} {action : InitAction} (ready : call.Ready)
    (stepped : call.step action = some next) :
    next.Ready ∧
      ∃ actions, Library.run OnSipXmpp.step actions call.object = some next.object := by
  have stays : call.Ready ∧
      ∃ actions, Library.run OnSipXmpp.step actions call.object = some call.object :=
    ⟨ready, [], rfl⟩
  have outside : ∀ {control}, call.control = control →
      (∀ timeOut reset, control ≠ .pollingCalls timeOut reset) →
      call.object.calls.polling = .idle := by
    rintro control same elsewhere
    rcases ready with ⟨timeOut, reset, inside⟩ | idle
    · exact absurd (same.symm.trans inside) (elsewhere timeOut reset)
    · exact idle
  cases action with
  | call action =>
    rcases step_call stepped with rfl | ⟨object, called, ⟨where_, rfl⟩ | ⟨timeOut, reset, -, idle, rfl⟩⟩
    · exact stays
    · refine ⟨?_, _, run_single called⟩
      rcases ready with inside | idle
      · exact Or.inl inside
      · rcases where_ with inside | other
        · exact Or.inl inside
        · exact Or.inr ((polling_step other called).trans idle)
    · refine ⟨Or.inr idle, [.call action, .resetConnectLoop reset], ?_⟩
      refine Library.run_cons_eq_some.mpr ⟨object, called, ?_⟩
      exact run_single (OnSipXmpp.whenIdle_eq_some.mpr ⟨idle, rfl⟩)
  | arrive arrival =>
    rcases step_arrive stepped with ⟨-, rfl⟩ | ⟨where_, rfl⟩
    · exact stays
    · have idle : call.object.calls.polling = .idle := by
        rcases where_ with ⟨timeOut, control⟩ | control
        · exact outside control fun _ _ => by simp
        · exact outside control fun _ _ => by simp
      obtain ⟨stillIdle, arrives, arrived⟩ := run_arrive arrival idle
      exact ⟨Or.inr stillIdle, _, run_single arrived⟩
  | connected success =>
    rcases step_connected stepped with ⟨-, rfl⟩ | ⟨control, rfl⟩
    · exact stays
    · exact ⟨Or.inr (outside control fun _ _ => by simp), [], rfl⟩
  | checkStop signalled reading =>
    rcases step_checkStop stepped with ⟨-, rfl⟩ | ⟨control, rfl⟩
    · exact stays
    · exact ⟨Or.inr (outside control fun _ _ => by simp), [], rfl⟩
  | checkTime time loopTime readings reset =>
    rcases step_checkTime stepped with
      ⟨-, rfl⟩ | ⟨timeOut, control, ⟨-, rfl⟩ | ⟨-, -, rfl⟩ | ⟨-, -, rfl⟩⟩
    · exact stays
    · exact run_polled (outside control fun _ _ => by simp)
    · have idle := outside control fun _ _ => by simp
      have polls : call.object.step (.pollInit readings) = some (call.object.pollInit readings) :=
        OnSipXmpp.whenIdle_eq_some.mpr ⟨idle, rfl⟩
      exact ⟨Or.inl ⟨timeOut, reset, rfl⟩, _, run_single polls⟩
    · exact ⟨Or.inr (outside control fun _ _ => by simp), [], rfl⟩
  | received error =>
    rcases step_received stepped with ⟨-, rfl⟩ | ⟨timeOut, control, rfl⟩
    · exact stays
    · exact ⟨Or.inr (outside control fun _ _ => by simp), [], rfl⟩

end InitCall

end JnTapi
