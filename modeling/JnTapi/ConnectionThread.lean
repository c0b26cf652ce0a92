/-
This file models `COnSipDevice::ConnectionThread`: it logs in, polls in a loop,
passes the events on to TAPI, and logs in again when the connection is lost.

A step is one thing that the thread finds outside, a step of the poll of the
calls, or the passing on of one event. The steps of `InitOnSipTapi` are those of
its own model. Other threads make and drop calls as long as the object exists;
who signals the stop event is left open.
-/

import JnTapi.OnSipTapi

namespace JnTapi

/-- Where the thread stands in `OnSipTapi::Poll`. -/
inductive PollControl
  /-- At the head of the loop of `AsyncPolling` with its time-out -/
  | polling (timeOut : TimeOut)
  /-- In `onConnectLoop`, at the poll of the call machine. The reading is that of the reset of the
  timer after it. -/
  | pollingCalls (timeOut : TimeOut) (reset : Reading)
  /-- In `recv` -/
  | receiving (timeOut : TimeOut)
deriving DecidableEq, Repr

/-- The place that `Poll` is called from. -/
inductive PollCaller
  | connectionThread
  /-- The loop of `Disconnect` with its time-out -/
  | disconnect (tmout : TimeOut)
deriving DecidableEq, Repr

/-- Where the thread stands in `ConnectionThread`. -/
inductive ThreadControl
  /-- In `InitOnSipTapi`, for the first time or in the loop -/
  | initializing (first : Bool) (control : InitControl)
  /-- In the wait after an `InitOnSipTapi` that has failed -/
  | retryWaiting
  /-- At the head of the loop -/
  | looping
  /-- Behind an `InitOnSipTapi` in the loop that has succeeded, before `Poll` -/
  | connected
  | polling (caller : PollCaller) (control : PollControl)
  /-- In the wait after a `Poll` that has failed -/
  | errorWaiting
  /-- At `_processEvent`, with the call events that are still to be processed -/
  | processing (lstCallEvents : List CallNotification)
  /-- In the loop of `Disconnect`, after a `Poll` without an error -/
  | disconnecting (tmout : TimeOut)
  /-- In `AsyncCleanup`, before the thread goes on or ends -/
  | cleaning (last : Bool)
  /-- The object is deleted. -/
  | exited
deriving DecidableEq, Repr

/-- `COnSipDevice::ConnectionThread` -/
structure ConnectionThread where
  control : ThreadControl
  fConnected : Bool
  initStateType : InitStatesType
  loginInfo : LoginInfo
  /-- `m_OnSipTapi` -/
  object : OnSipXmpp
deriving DecidableEq, Repr

/-- One step of the thread, or of a thread that makes or drops calls. -/
inductive ThreadAction
  /-- A step of `InitOnSipTapi`, or of another thread during it -/
  | init (action : InitAction)
  /-- A step of the poll of the calls, or of another thread -/
  | call (action : CallAction)
  | arrive (arrival : Arrival)
  /-- `WaitForSingleObject(m_hevtStop, 0)` returns. -/
  | checkStop (signalled : Bool) (reading : Reading)
  /-- A wait for the stop event of some seconds returns. -/
  | waited (signalled : Bool) (reading : Reading)
  /-- `Poll` is called behind `InitOnSipTapi`. -/
  | beginPoll (reading : Reading)
  /-- `AsyncPolling` checks its time-out and the timer of `onConnectLoop`. -/
  | checkTime (time loopTime : Reading) (readings : StateMachineBase.PollReadings) (reset : Reading)
  /-- `m_gloox->recv` returns. -/
  | received (error : ConnectionError)
  /-- `_processEvent` is called with the next call event. -/
  | processEvent
  /-- The init events are processed, and the state of the login machine is looked at. -/
  | updateState
  /-- `Disconnect` checks its time-out and whether the shutdown is complete. -/
  | checkShutdown (time reading : Reading)
  /-- `m_gloox->disconnect` returns. -/
  | disconnected

namespace ConnectionThread

/-- The thread begins: it creates the object and calls `InitOnSipTapi`. -/
def new (reading : Reading) (loginInfo : LoginInfo) : ConnectionThread :=
  let call := InitCall.begin reading loginInfo (OnSipXmpp.new reading)
  ⟨.initializing true call.control, true, .notSet, loginInfo, call.object⟩

/-- `InitOnSipTapi` in the loop begins. -/
def tryConnect (reading : Reading) (thread : ConnectionThread) : ConnectionThread :=
  let call := InitCall.begin reading thread.loginInfo thread.object
  { thread with control := .initializing false call.control, object := call.object }

/-- `Poll` begins. -/
def poll (caller : PollCaller) (reading : Reading) (thread : ConnectionThread) :
    ConnectionThread :=
  { thread with control := .polling caller (.polling (TimeOut.new reading 1000)) }

/-- `OnSipTapi::Cleanup`, up to `AsyncCleanup` -/
def cleanup (last : Bool) (thread : ConnectionThread) : ConnectionThread :=
  { thread with control := .cleaning last, object := thread.object.cleanup }

/-- `m_OnSipTapi->Disconnect(fConnected)` at the end of the thread -/
def disconnect (reading : Reading) (thread : ConnectionThread) : ConnectionThread :=
  if thread.fConnected then
    ConnectionThread.poll (.disconnect (TimeOut.new reading 5000)) reading
      { thread with object := thread.object.asyncShutdown }
  else thread.cleanup true

/-- The thread after a step of `InitOnSipTapi` -/
def initialized (first : Bool) (call : InitCall) (thread : ConnectionThread) : ConnectionThread :=
  match call.control with
  | .returned true stateType =>
    { thread with
      control := if first then .looping else .connected
      fConnected := true
      initStateType := stateType
      object := call.object }
  | .returned false stateType =>
    let thread := { thread with initStateType := stateType, object := call.object }
    if first then thread.cleanup true else { thread with control := .retryWaiting }
  | control => { thread with control := .initializing first control, object := call.object }

/-- The thread after a `Poll` without an error: `GetCallEvents` and `GetInitEvents` -/
def polled (caller : PollCaller) (thread : ConnectionThread) : ConnectionThread :=
  match caller with
  | .connectionThread =>
    let lstCallEvents := thread.object.xmpp.lstCallEvents
    if lstCallEvents = [] ∧ thread.object.xmpp.lstInitEvents = [] then
      { thread with control := .looping }
    else { thread with control := .processing lstCallEvents, object := thread.object.clearEvents }
  | .disconnect tmout => { thread with control := .disconnecting tmout }

/-- The thread after a `Poll` with an error -/
def pollFailed (caller : PollCaller) (thread : ConnectionThread) : ConnectionThread :=
  match caller with
  | .connectionThread => { thread with control := .errorWaiting, fConnected := false }
  | .disconnect _ => thread.cleanup true

/-- The comparison of the state type after the events have been processed -/
def updateState (thread : ConnectionThread) : ConnectionThread :=
  let curStateType := getInitStatesType thread.object.xmpp.lastInitState
  if curStateType = thread.initStateType then { thread with control := .looping }
  else if curStateType = .disconnected then
    ConnectionThread.cleanup false
      { thread with initStateType := curStateType, fConnected := false }
  else { thread with control := .looping, initStateType := curStateType }

/-- Where the thread stands after a step of the poll of the calls: the last step of the poll leads
on to `recv`. -/
def afterCall (caller : PollCaller) (timeOut : TimeOut) (reset : Reading) (action : CallAction)
    (thread : ConnectionThread) (object : OnSipXmpp) : ConnectionThread :=
  match action with
  | .pollHandlers _ => { thread with
      control := .polling caller (.receiving timeOut), object := object.resetConnectLoop reset }
  | _ => { thread with object := object }

/-- One step of the thread; `none` when it does not stand where the step begins. -/
def step (thread : ConnectionThread) : ThreadAction → Option ConnectionThread
  | .init action =>
    match thread.control with
    | .initializing first control =>
      (InitCall.step ⟨control, thread.object⟩ action).map fun call => thread.initialized first call
    | _ => none
  | .call action =>
    match thread.control with
    | .initializing _ _ | .exited => none
    | .polling caller (.pollingCalls timeOut reset) =>
      (thread.object.step (.call action)).map (thread.afterCall caller timeOut reset action)
    | _ =>
      if InitCall.otherThread action then
        (thread.object.step (.call action)).map fun object => { thread with object := object }
      else none
  | .arrive arrival =>
    match thread.control with
    | .polling _ (.receiving _) | .cleaning _ =>
      some { thread with object := thread.object.arrive arrival }
    | _ => none
  | .checkStop signalled reading =>
    match thread.control with
    | .looping =>
      if signalled then some (thread.disconnect reading)
      else if thread.fConnected then some (thread.poll .connectionThread reading)
      else some (thread.tryConnect reading)
    | _ => none
  | .waited signalled reading =>
    match thread.control with
    | .retryWaiting =>
      if signalled then some { thread with control := .looping }
      else some (thread.tryConnect reading)
    | .errorWaiting =>
      if signalled then some (thread.disconnect reading)
      else some { thread with control := .looping }
    | _ => none
  | .beginPoll reading =>
    match thread.control with
    | .connected => some (thread.poll .connectionThread reading)
    | _ => none
  | .checkTime time loopTime readings reset =>
    match thread.control with
    | .polling caller (.polling timeOut) =>
      if timeOut.isExpired time then some (thread.polled caller)
      else if thread.object.tmrConnectLoop.isExpired loopTime then
        some { thread with
          control := .polling caller (.pollingCalls timeOut reset)
          object := thread.object.pollInit readings }
      else some { thread with control := .polling caller (.receiving timeOut) }
    | _ => none
  | .received error =>
    match thread.control with
    | .polling caller (.receiving timeOut) =>
      if error = .connNoError then
        some { thread with control := .polling caller (.polling timeOut) }
      else some (thread.pollFailed caller)
    | _ => none
  | .processEvent =>
    match thread.control with
    | .processing (_ :: rest) => some { thread with control := .processing rest }
    | _ => none
  | .updateState =>
    match thread.control with
    | .processing [] => some thread.updateState
    | _ => none
  | .checkShutdown time reading =>
    match thread.control with
    | .disconnecting tmout =>
      if tmout.isExpired time ∨ thread.object.initStateMachine.stateHandlers = [] then
        some (thread.cleanup true)
      else some (thread.poll (.disconnect tmout) reading)
    | _ => none
  | .disconnected =>
    match thread.control with
    | .cleaning last => some { thread with control := if last then .exited else .looping }
    | _ => none

/-! ### What a step can do -/

/-- What a step does, by the place where the thread stands. -/
inductive Transition (thread : ConnectionThread) : ThreadAction → ConnectionThread → Prop
  | init {first : Bool} {control : InitControl} {action : InitAction} {call : InitCall}
      (stands : thread.control = .initializing first control)
      (stepped : InitCall.step ⟨control, thread.object⟩ action = some call) :
      Transition thread (.init action) (thread.initialized first call)
  | otherCall {action : CallAction} {object : OnSipXmpp} (alive : thread.control ≠ .exited)
      (other : InitCall.otherThread action = true)
      (called : thread.object.step (.call action) = some object) :
      Transition thread (.call action) { thread with object := object }
  | pollCall {caller : PollCaller} {timeOut : TimeOut} {reset : Reading} {action : CallAction}
      {object : OnSipXmpp} (stands : thread.control = .polling caller (.pollingCalls timeOut reset))
      (called : thread.object.step (.call action) = some object) :
      Transition thread (.call action) (thread.afterCall caller timeOut reset action object)
  | arrive {arrival : Arrival}
      (stands : (∃ caller timeOut, thread.control = .polling caller (.receiving timeOut)) ∨
        ∃ last, thread.control = .cleaning last) :
      Transition thread (.arrive arrival) { thread with object := thread.object.arrive arrival }
  | stop {reading : Reading}
      (stands : thread.control = .looping ∨ thread.control = .errorWaiting)
      {action : ThreadAction}
      (reads : action = .checkStop true reading ∨ action = .waited true reading) :
      Transition thread action (thread.disconnect reading)
  | poll {reading : Reading} {action : ThreadAction}
      (stands : (thread.control = .looping ∧ thread.fConnected = true ∧
          action = .checkStop false reading) ∨
        (thread.control = .connected ∧ action = .beginPoll reading)) :
      Transition thread action (thread.poll .connectionThread reading)
  | tryConnect {reading : Reading} {action : ThreadAction}
      (stands : (thread.control = .looping ∧ thread.fConnected = false ∧
          action = .checkStop false reading) ∨
        (thread.control = .retryWaiting ∧ action = .waited false reading)) :
      Transition thread action (thread.tryConnect reading)
  | loop {signalled : Bool} {reading : Reading}
      (stands : (thread.control = .retryWaiting ∧ signalled = true) ∨
        (thread.control = .errorWaiting ∧ signalled = false)) :
      Transition thread (.waited signalled reading) { thread with control := .looping }
  | polled {caller : PollCaller} {timeOut : TimeOut} {time loopTime : Reading}
      {readings : StateMachineBase.PollReadings} {reset : Reading}
      (stands : thread.control = .polling caller (.polling timeOut)) :
      Transition thread (.checkTime time loopTime readings reset) (thread.polled caller)
  | pollInit {caller : PollCaller} {timeOut : TimeOut} {time loopTime : Reading}
      {readings : StateMachineBase.PollReadings} {reset : Reading}
      (stands : thread.control = .polling caller (.polling timeOut)) :
      Transition thread (.checkTime time loopTime readings reset)
        { thread with
          control := .polling caller (.pollingCalls timeOut reset)
          object := thread.object.pollInit readings }
  | receive {caller : PollCaller} {timeOut : TimeOut} {time loopTime : Reading}
      {readings : StateMachineBase.PollReadings} {reset : Reading}
      (stands : thread.control = .polling caller (.polling timeOut)) :
      Transition thread (.checkTime time loopTime readings reset)
        { thread with control := .polling caller (.receiving timeOut) }
  | received {caller : PollCaller} {timeOut : TimeOut}
      (stands : thread.control = .polling caller (.receiving timeOut)) :
      Transition thread (.received .connNoError)
        { thread with control := .polling caller (.polling timeOut) }
  | pollFailed {caller : PollCaller} {timeOut : TimeOut} {error : ConnectionError}
      (stands : thread.control = .polling caller (.receiving timeOut))
      (fails : error ≠ .connNoError) :
      Transition thread (.received error) (thread.pollFailed caller)
  | processEvent {notification : CallNotification} {rest : List CallNotification}
      (stands : thread.control = .processing (notification :: rest)) :
      Transition thread .processEvent { thread with control := .processing rest }
  | updateState (stands : thread.control = .processing []) :
      Transition thread .updateState thread.updateState
  | cleanup {tmout : TimeOut} {time reading : Reading}
      (stands : thread.control = .disconnecting tmout) :
      Transition thread (.checkShutdown time reading) (thread.cleanup true)
  | pollShutdown {tmout : TimeOut} {time reading : Reading}
      (stands : thread.control = .disconnecting tmout) :
      Transition thread (.checkShutdown time reading) (thread.poll (.disconnect tmout) reading)
  | disconnected {last : Bool} (stands : thread.control = .cleaning last) :
      Transition thread .disconnected
        { thread with control := if last then .exited else .looping }

theorem transition_of_step {thread next : ConnectionThread} {action : ThreadAction}
    (stepped : thread.step action = some next) : Transition thread action next := by
  rw [step.eq_def] at stepped
  cases action with
  | init action =>
    cases control : thread.control with
    | initializing first inside =>
      rw [control] at stepped
      obtain ⟨call, called, rfl⟩ := Option.map_eq_some_iff.mp stepped
      exact .init control called
    | _ =>
      rw [control] at stepped
      cases stepped
  | call action =>
    dsimp only at stepped
    split at stepped
    case h_1 | h_2 => cases stepped
    case h_3 caller timeOut reset control =>
      obtain ⟨object, called, rfl⟩ := Option.map_eq_some_iff.mp stepped
      exact .pollCall control called
    case h_4 alive _ =>
      split_ifs at stepped with other
      obtain ⟨object, called, rfl⟩ := Option.map_eq_some_iff.mp stepped
      exact .otherCall alive other called
  | arrive arrival =>
    dsimp only at stepped
    split at stepped
    case h_1 caller timeOut control =>
      obtain rfl := Option.some.inj stepped
      exact .arrive (Or.inl ⟨caller, timeOut, control⟩)
    case h_2 last control =>
      obtain rfl := Option.some.inj stepped
      exact .arrive (Or.inr ⟨last, control⟩)
    case h_3 => cases stepped
  | checkStop signalled reading =>
    dsimp only at stepped
    split at stepped
    case h_1 control =>
      split_ifs at stepped with stops connected
      · obtain rfl := Option.some.inj stepped
        exact .stop (Or.inl control) (Or.inl (by rw [stops]))
      · obtain rfl := Option.some.inj stepped
        obtain rfl : signalled = false := by simpa using stops
        exact .poll (Or.inl ⟨control, connected, rfl⟩)
      · obtain rfl := Option.some.inj stepped
        obtain rfl : signalled = false := by simpa using stops
        exact .tryConnect (Or.inl ⟨control, by simpa using connected, rfl⟩)
    case h_2 => cases stepped
  | waited signalled reading =>
    dsimp only at stepped
    split at stepped
    case h_1 control =>
      split_ifs at stepped with stops
      · obtain rfl := Option.some.inj stepped
        exact .loop (Or.inl ⟨control, stops⟩)
      · obtain rfl := Option.some.inj stepped
        obtain rfl : signalled = false := by simpa using stops
        exact .tryConnect (Or.inr ⟨control, rfl⟩)
    case h_2 control =>
      split_ifs at stepped with stops
      · obtain rfl := Option.some.inj stepped
        exact .stop (Or.inr control) (Or.inr (by rw [stops]))
      · obtain rfl := Option.some.inj stepped
        exact .loop (Or.inr ⟨control, by simpa using stops⟩)
    case h_3 => cases stepped
  | beginPoll reading =>
    dsimp only at stepped
    split at stepped
    case h_1 control =>
      obtain rfl := Option.some.inj stepped
      exact .poll (Or.inr ⟨control, rfl⟩)
    case h_2 => cases stepped
  | checkTime time loopTime readings reset =>
    dsimp only at stepped
    split at stepped
    case h_1 caller timeOut control =>
      split_ifs at stepped
      · obtain rfl := Option.some.inj stepped
        exact .polled control
      · obtain rfl := Option.some.inj stepped
        exact .pollInit control
      · obtain rfl := Option.some.inj stepped
        exact .receive control
    case h_2 => cases stepped
  | received error =>
    dsimp only at stepped
    split at stepped
    case h_1 caller timeOut control =>
      split_ifs at stepped with fine
      · obtain rfl := Option.some.inj stepped
        exact fine ▸ .received control
      · obtain rfl := Option.some.inj stepped
        exact .pollFailed control fine
    case h_2 => cases stepped
  | processEvent =>
    dsimp only at stepped
    split at stepped
    case h_1 notification rest control =>
      obtain rfl := Option.some.inj stepped
      exact .processEvent control
    case h_2 => cases stepped
  | updateState =>
    dsimp only at stepped
    split at stepped
    case h_1 control =>
      obtain rfl := Option.some.inj stepped
      exact .updateState control
    case h_2 => cases stepped
  | checkShutdown time reading =>
    dsimp only at stepped
    split at stepped
    case h_1 tmout control =>
      split_ifs at stepped
      · obtain rfl := Option.some.inj stepped
        exact .cleanup control
      · obtain rfl := Option.some.inj stepped
        exact .pollShutdown control
    case h_2 => cases stepped
  | disconnected =>
    dsimp only at stepped
    split at stepped
    case h_1 last control =>
      obtain rfl := Option.some.inj stepped
      exact .disconnected control
    case h_2 => cases stepped

end ConnectionThread

/-! ### What a step does to the object -/

/-- What the thread does to the object besides the steps of the call machine does not change this
view of it. -/
structure OnSipXmpp.CallsOnly {View : Type} (view : OnSipXmpp → View) : Prop where
  arrive : ∀ arrival object, view (arrive arrival object) = view object
  pollInit : ∀ readings object, view (pollInit readings object) = view object
  resetConnectLoop : ∀ reading object, view (resetConnectLoop reading object) = view object
  clearEvents : ∀ object, view (clearEvents object) = view object
  start : ∀ reading loginInfo object, view (start reading loginInfo object) = view object
  asyncShutdown : ∀ object, view (asyncShutdown object) = view object
  cleanup : ∀ object, view (cleanup object) = view object

section view

variable {View : Type} {view : OnSipXmpp → View} (only : OnSipXmpp.CallsOnly view)

include only

/-- A step of `InitOnSipTapi` changes the view as a step of the call machine does: one of its poll,
or one of another thread. -/
theorem InitCall.step_view {call next : InitCall} {action : InitAction}
    (stepped : call.step action = some next) :
    view next.object = view call.object ∨ ∃ callAction object, action = .call callAction ∧
      ((∃ timeOut reset, call.control = .pollingCalls timeOut reset) ∨
        otherThread callAction = true) ∧
      call.object.step (.call callAction) = some object ∧ view next.object = view object := by
  cases action with
  | call action =>
    rcases step_call stepped with
      rfl | ⟨object, called, ⟨place, rfl⟩ | ⟨timeOut, reset, control, -, rfl⟩⟩
    · exact Or.inl rfl
    · exact Or.inr ⟨action, object, rfl, place, called, rfl⟩
    · exact Or.inr ⟨action, object, rfl, Or.inl ⟨timeOut, reset, control⟩, called,
        only.resetConnectLoop reset object⟩
  | arrive arrival =>
    rcases step_arrive stepped with ⟨-, rfl⟩ | ⟨-, rfl⟩
    · exact Or.inl rfl
    · exact Or.inl (only.arrive arrival call.object)
  | connected success =>
    rcases step_connected stepped with ⟨-, rfl⟩ | ⟨-, rfl⟩ <;> exact Or.inl rfl
  | checkStop signalled reading =>
    rcases step_checkStop stepped with ⟨-, rfl⟩ | ⟨-, rfl⟩ <;> exact Or.inl rfl
  | checkTime time loopTime readings reset =>
    rcases step_checkTime stepped with
      ⟨-, rfl⟩ | ⟨timeOut, -, ⟨-, rfl⟩ | ⟨-, -, rfl⟩ | ⟨-, -, rfl⟩⟩
    · exact Or.inl rfl
    · left
      unfold polled
      dsimp only
      split_ifs
      · rfl
      · exact only.clearEvents call.object
      · rfl
    · exact Or.inl (only.pollInit readings call.object)
    · exact Or.inl rfl
  | received error =>
    rcases step_received stepped with ⟨-, rfl⟩ | ⟨timeOut, -, rfl⟩ <;> exact Or.inl rfl

namespace ConnectionThread

/-- The step of the call machine that the action is in a `Poll`, if it is one -/
def pollsCalls (thread : ConnectionThread) : ThreadAction → Option CallAction
  | .init (.call action) =>
    match thread.control with
    | .initializing _ (.pollingCalls _ _) => some action
    | _ => none
  | .call action =>
    match thread.control with
    | .polling _ (.pollingCalls _ _) => some action
    | _ => none
  | _ => none

omit only in
/-- A step of `InitOnSipTapi` in the poll of the calls -/
theorem pollsCalls_init {thread : ConnectionThread} {first : Bool} {control : InitControl}
    (stands : thread.control = .initializing first control) {timeOut : TimeOut} {reset : Reading}
    (polls : control = .pollingCalls timeOut reset) (action : CallAction) :
    thread.pollsCalls (.init (.call action)) = some action := by
  rw [pollsCalls, stands, polls]

omit only in
theorem action_of_pollsCalls {thread : ConnectionThread} {action : ThreadAction}
    {callAction : CallAction} (polls : thread.pollsCalls action = some callAction) :
    action = .call callAction ∨ action = .init (.call callAction) := by
  unfold pollsCalls at polls
  split at polls
  case h_1 action =>
    split at polls
    · exact Or.inr (by rw [Option.some.inj polls])
    · cases polls
  case h_2 action =>
    split at polls
    · exact Or.inl (by rw [Option.some.inj polls])
    · cases polls
  case h_3 => cases polls

theorem view_initialized (first : Bool) (call : InitCall) (thread : ConnectionThread) :
    view (thread.initialized first call).object = view call.object := by
  unfold initialized
  split
  · rfl
  · dsimp only
    split_ifs
    · exact only.cleanup call.object
    · rfl
  · rfl

/-- A step of the thread changes the view as a step of the call machine does: one of its poll, or
one of another thread. -/
theorem step_view {thread next : ConnectionThread} {action : ThreadAction}
    (stepped : thread.step action = some next) :
    view next.object = view thread.object ∨ ∃ callAction object,
      (thread.pollsCalls action = some callAction ∨
        (action = .call callAction ∨ action = .init (.call callAction)) ∧
          InitCall.otherThread callAction = true) ∧
      thread.object.step (.call callAction) = some object ∧ view next.object = view object := by
  cases transition_of_step stepped with
  | @init first control action call stands inside =>
    rw [view_initialized only]
    rcases InitCall.step_view only inside with
      same | ⟨callAction, object, rfl, place, called, same⟩
    · exact Or.inl same
    · refine Or.inr ⟨callAction, object, ?_, called, same⟩
      rcases place with ⟨timeOut, reset, polls⟩ | other
      · exact Or.inl (pollsCalls_init stands polls callAction)
      · exact Or.inr ⟨Or.inr rfl, other⟩
  | @otherCall action object alive other called =>
    exact Or.inr ⟨action, object, Or.inr ⟨Or.inl rfl, other⟩, called, rfl⟩
  | @pollCall caller timeOut reset action object stands called =>
    refine Or.inr ⟨action, object, Or.inl ?_, called, ?_⟩
    · rw [pollsCalls, stands]
    · unfold afterCall
      split
      · exact only.resetConnectLoop reset object
      · rfl
  | arrive stands => exact Or.inl (only.arrive _ thread.object)
  | stop stands reads =>
    left
    unfold disconnect
    split_ifs
    · exact only.asyncShutdown thread.object
    · exact only.cleanup thread.object
  | tryConnect stands =>
    exact Or.inl ((only.start _ _ _).trans (only.clearEvents thread.object))
  | @polled caller =>
    left
    cases caller with
    | connectionThread =>
      unfold polled
      dsimp only
      split_ifs
      · rfl
      · exact only.clearEvents thread.object
    | disconnect tmout => rfl
  | pollInit stands => exact Or.inl (only.pollInit _ thread.object)
  | @pollFailed caller =>
    cases caller with
    | connectionThread => exact Or.inl rfl
    | disconnect tmout => exact Or.inl (only.cleanup thread.object)
  | updateState stands =>
    left
    unfold updateState
    dsimp only
    split_ifs
    · rfl
    · exact only.cleanup thread.object
    · rfl
  | cleanup stands => exact Or.inl (only.cleanup thread.object)
  | _ => exact Or.inl rfl

end ConnectionThread

end view

/-! ### Inputs of the concrete runs -/

namespace Example

/-- The arrival of an event at the given tick -/
def arrivalAt (tick : Nat) (event : XmppEvent) (fromConnection : event.data.fromConnection = true) :
    Arrival :=
  .event (readings tick) (readings tick) event fromConnection

theorem fromConnection_connectFactory (connect : Bool) :
    (XmppEvent.connectFactory connect).data.fromConnection = true := by
  cases connect <;> rfl

theorem fromConnection_activeCall (id sipCallid : String) (dialogState : CallDialogState) :
    (activeCall id sipCallid dialogState).data.fromConnection = true := rfl

theorem fromConnection_retract (id : String) : (retract id).data.fromConnection = true := rfl

/-- The answer to the last request of the login -/
def answer : XmppEvent := ⟨[], false, 0, .auth "2030-01-01T00:00Z".toList⟩

/-- The events of a login that succeeds -/
def loginArrivals (tick : Nat) : List Arrival :=
  [arrivalAt tick (.connectFactory true) (fromConnection_connectFactory true),
    arrivalAt tick answer rfl, arrivalAt tick subscribed rfl]

/-- The thread connects and polls both machines for the first time. -/
def connectAndPoll : List ThreadAction :=
  [.init (.connected true), .init (.checkStop false (reading 0)),
    .init (.checkTime (reading 300) (reading 300) (.still (reading 300)) (reading 300)),
    .init (.call .testRequests), .init (.call .testEvents),
    .init (.call (.pollHandlers (readings 300)))]

/-- The first `Poll` ends when its second is over. -/
def pollTimesOut : List ThreadAction :=
  [.init (.received .connNoError),
    .init (.checkTime (reading 1000) (reading 1000) (.still (reading 1000)) (reading 1000))]

/-- The thread polls both machines in its loop. -/
def pollLoop (tick : Nat) : List ThreadAction :=
  [.checkTime (reading tick) (reading tick) (.still (reading tick)) (reading tick),
    .call .testRequests, .call .testEvents, .call (.pollHandlers (readings tick))]

/-- The thread logs in, and these events arrive after those of the login. -/
def threadLogIn (arrivals : List Arrival) : List ThreadAction :=
  connectAndPoll ++ (loginArrivals 310 ++ arrivals).map (fun arrival => .init (.arrive arrival)) ++
    pollTimesOut

end Example

end JnTapi
