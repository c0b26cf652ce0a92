/-
This file proves that `InitOnSipTapi` returns.

As long as the login is not decided, some handler waits for an answer, and what it
has reached is behind it for good. So there is a last change. After it the `Poll`s go
on: each `recv` returns, so the timer of the loop runs out again and again, and the
machine of the login is polled; one of these polls finds that the handler has waited
for too long. That would be another change.
-/

import Mathlib.Tactic.IntervalCases
import JnTapi.Library.Ticks
import JnTapi.Init.Progress
import JnTapi.OwnSession

namespace JnTapi

open Library

namespace OnSipXmpp

/-! ### The queues of the login machine -/

/-- New handlers wait in the queue of the login machine, and nothing but requests to shut down is in
the other; the timer of the loop runs for a quarter of a second. -/
structure LoginQueues (object : OnSipXmpp) : Prop where
  new : ∀ handler ∈ object.initStateMachine.handlerRequests,
    ∃ reading, handler = InitStateHandler.new reading
  flagged : object.initStateMachine.handlerRequests = [] ∨
    0 < object.initStateMachine.requestChange
  shutdown : ∀ event ∈ object.initStateMachine.events, event.data = .shutdownRequest
  timer : object.tmrConnectLoop.msecs = 250

theorem LoginQueues.of_same {object next : OnSipXmpp} (queues : object.LoginQueues)
    (requests : next.initStateMachine.handlerRequests = object.initStateMachine.handlerRequests)
    (change : next.initStateMachine.requestChange = object.initStateMachine.requestChange)
    (events : next.initStateMachine.events = object.initStateMachine.events)
    (timer : next.tmrConnectLoop.msecs = object.tmrConnectLoop.msecs) : next.LoginQueues where
  new := requests ▸ queues.new
  flagged := by
    rw [requests, change]
    exact queues.flagged
  shutdown := events ▸ queues.shutdown
  timer := timer.trans queues.timer

theorem LoginQueues.signalEvent {object : OnSipXmpp} (queues : object.LoginQueues)
    (initReadings callReadings : Readings) (event : XmppEvent) :
    (object.signalEvent initReadings callReadings event).LoginQueues := by
  have timer : (object.signalEvent initReadings callReadings event).tmrConnectLoop =
      object.tmrConnectLoop := by
    rcases object.signalEvent_cases initReadings callReadings event with ⟨-, same⟩ | ⟨-, same⟩
    · rw [same]
      rfl
    · rw [same, tmrConnectLoop_signalCalls]
      rfl
  have machine := initStateMachine_signalEvent initReadings callReadings event object
  refine queues.of_same ?_ ?_ ?_ (congrArg TimeOut.msecs timer)
  · rw [machine]
    rfl
  · rw [machine]
    rfl
  · rw [machine]
    rfl

theorem LoginQueues.arrive {object : OnSipXmpp} (queues : object.LoginQueues)
    (arrival : Arrival) : (object.arrive arrival).LoginQueues := by
  cases arrival with
  | event initReadings callReadings event fromConnection =>
    exact queues.signalEvent initReadings callReadings _
  | workerReply index event => exact queues.of_same rfl rfl rfl rfl
  | workerMessage event => exact queues.of_same rfl rfl rfl rfl

theorem LoginQueues.pollInit {object : OnSipXmpp} (queues : object.LoginQueues)
    (readings : StateMachineBase.PollReadings) : (object.pollInit readings).LoginQueues := by
  have polled : (object.pollInit readings).initStateMachine.handlerRequests =
      object.initStateMachine.getRequests.2.handlerRequests ∧
      (object.pollInit readings).initStateMachine.requestChange =
        object.initStateMachine.getRequests.2.requestChange ∧
      (object.pollInit readings).initStateMachine.events =
        object.initStateMachine.getRequests.2.getEvents.2.events := by
    show ((object.initStateMachine.pollStateHandlers initVirtuals readings
      object.xmpp).1).handlerRequests = _ ∧ ((object.initStateMachine.pollStateHandlers initVirtuals
      readings object.xmpp).1).requestChange = _ ∧ ((object.initStateMachine.pollStateHandlers
      initVirtuals readings object.xmpp).1).events = _
    rw [StateMachineBase.pollStateHandlers_eq]
    refine ⟨StateMachineBase.handlerRequests_getEvents _, ?_, rfl⟩
    dsimp only
    unfold StateMachineBase.getEvents
    split_ifs <;> rfl
  obtain ⟨requests, change, events⟩ := polled
  have left : ∀ event ∈ object.initStateMachine.getRequests.2.getEvents.2.events,
      event ∈ object.initStateMachine.events := by
    rw [← object.initStateMachine.events_getRequests]
    unfold StateMachineBase.getEvents
    split_ifs
    · exact fun event absent => absurd absent List.not_mem_nil
    · exact fun event member => member
  rcases queues.flagged with none | flagged
  · have parts := object.initStateMachine.getRequests_append
    rw [none, List.append_eq_nil_iff] at parts
    rw [parts.2] at requests
    exact ⟨requests ▸ fun _ absent => absurd absent List.not_mem_nil, Or.inl requests,
      events ▸ fun event member => queues.shutdown event (left event member), queues.timer⟩
  · have all : object.initStateMachine.getRequests = object.initStateMachine.takeRequests :=
      if_pos flagged
    rw [all] at requests
    exact ⟨requests ▸ fun _ absent => absurd absent List.not_mem_nil, Or.inl requests,
      events ▸ fun event member => queues.shutdown event (left event member), queues.timer⟩

theorem LoginQueues.start {object : OnSipXmpp} (queues : object.LoginQueues) (reading : Reading)
    (loginInfo : LoginInfo) : (object.start reading loginInfo).LoginQueues := by
  refine ⟨?_, Or.inr (Nat.succ_pos _), queues.shutdown, queues.timer⟩
  intro handler member
  rcases List.mem_append.mp member with old | own
  · exact queues.new handler old
  · exact ⟨reading, List.mem_singleton.mp own⟩

theorem LoginQueues.asyncShutdown {object : OnSipXmpp} (queues : object.LoginQueues) :
    object.asyncShutdown.LoginQueues := by
  refine ⟨queues.new, queues.flagged, ?_, queues.timer⟩
  intro event member
  rcases List.mem_append.mp member with old | own
  · exact queues.shutdown event old
  · rw [List.mem_singleton.mp own]
    rfl

theorem LoginQueues.step {object next : OnSipXmpp} {action : Action} (queues : object.LoginQueues)
    (stepped : object.step action = some next) : next.LoginQueues := by
  cases action with
  | call action =>
    obtain ⟨-, calls, -, rfl⟩ := step_call.mp stepped
    exact queues.of_same rfl rfl rfl rfl
  | pollInit readings =>
    obtain ⟨-, rfl⟩ := whenIdle_eq_some.mp stepped
    exact queues.pollInit readings
  | signal initReadings callReadings event =>
    obtain ⟨-, rfl⟩ := whenIdle_eq_some.mp stepped
    exact queues.signalEvent initReadings callReadings event
  | start reading loginInfo =>
    obtain ⟨-, rfl⟩ := whenIdle_eq_some.mp stepped
    exact queues.start reading loginInfo
  | asyncShutdown =>
    obtain ⟨-, rfl⟩ := whenIdle_eq_some.mp stepped
    exact queues.asyncShutdown
  | _ =>
    obtain ⟨-, rfl⟩ := whenIdle_eq_some.mp stepped
    exact queues.of_same rfl rfl rfl rfl

theorem loginQueues_of_run {reading : Reading} {actions : List Action} {object : OnSipXmpp}
    (reached : run OnSipXmpp.step actions (OnSipXmpp.new reading) = some object) :
    object.LoginQueues := by
  refine run_invariant (fun _ _ _ stepped queues => LoginQueues.step queues stepped) reached ?_
  have none : ∀ {Item : Type} {holds : Item → Prop}, ∀ item ∈ ([] : List Item), holds item :=
    fun _ absent => absurd absent List.not_mem_nil
  exact ⟨none, Or.inl rfl, none, rfl⟩

/-! ### What the login looks like -/

/-- What the wait for the login sees of the object -/
def loginView (object : OnSipXmpp) : LoginView :=
  JnTapi.loginView object.initStateMachine object.xmpp

/-- When the object begins a session and no request to shut down is queued, the new handler waits
for the server, and any other handler is as new. -/
theorem LoginQueues.begin {object : OnSipXmpp} (queues : object.LoginQueues)
    (noShutdown : ∀ event ∈ object.initStateMachine.events, event.data ≠ .shutdownRequest)
    (reading : Reading) (loginInfo : LoginInfo) :
    LoggingIn (InitCall.begin reading loginInfo object).object.initStateMachine ∧
      (InitCall.begin reading loginInfo object).object.loginView.Waits := by
  have drivers : (InitCall.begin reading loginInfo object).object.drivers =
      object.initStateMachine.handlerRequests ++ [InitStateHandler.new reading] := rfl
  refine ⟨⟨?_, ?_, Or.inr (Nat.succ_pos _)⟩, (InitStateHandler.new reading).currentState, ?_,
    Or.inl rfl⟩
  · intro handler member
    have inside : handler ∈
        object.initStateMachine.handlerRequests ++ [InitStateHandler.new reading] := member
    rcases List.mem_append.mp inside with old | own
    · obtain ⟨tick, rfl⟩ := queues.new handler old
      exact InitStateHandler.going_new tick
    · rw [List.mem_singleton.mp own]
      exact InitStateHandler.going_new reading
  · refine List.eq_nil_iff_forall_not_mem.mpr fun event member => ?_
    exact noShutdown event member (queues.shutdown event member)
  · refine List.mem_map_of_mem (?_ : InitStateHandler.new reading ∈ _)
    show _ ∈ (InitCall.begin reading loginInfo object).object.drivers
    rw [drivers]
    exact List.mem_append_right _ (List.mem_singleton_self _)

theorem loginView_signalEvent (initReadings callReadings : Readings) (event : XmppEvent)
    (object : OnSipXmpp) :
    let signalled :=
      object.initStateMachine.signalEvent initVirtuals initReadings event false object.xmpp
    (object.signalEvent initReadings callReadings event).initStateMachine = signalled.2.1 ∧
      (object.signalEvent initReadings callReadings event).loginView =
        JnTapi.loginView signalled.2.1 signalled.2.2 := by
  intro signalled
  have machine := initStateMachine_signalEvent initReadings callReadings event object
  have last : (object.signalEvent initReadings callReadings event).xmpp.lastInitState =
      signalled.2.2.lastInitState := by
    rcases object.signalEvent_cases initReadings callReadings event with ⟨-, same⟩ | ⟨-, same⟩
    · rw [same]
      rfl
    · rw [same, (sameLogin_signalCalls callReadings event _).2]
      rfl
  refine ⟨machine, ?_⟩
  unfold loginView JnTapi.loginView
  rw [machine, last]

/-- Another login machine with the same states looks the same. -/
theorem loginView_stateHandlers (object : OnSipXmpp) (handlers : List InitStateHandler)
    (same : handlers.map InitStateHandler.currentState =
      object.initStateMachine.stateHandlers.map InitStateHandler.currentState)
    (logging : LoggingIn object.initStateMachine) :
    let next : OnSipXmpp := { object with initStateMachine :=
      { object.initStateMachine with stateHandlers := handlers } }
    LoggingIn next.initStateMachine ∧ next.loginView = object.loginView := by
  intro next
  have items : (handlers ++ object.initStateMachine.handlerRequests).map
      InitStateHandler.currentState = (object.initStateMachine.stateHandlers ++
        object.initStateMachine.handlerRequests).map InitStateHandler.currentState := by
    rw [List.map_append, List.map_append, same]
  exact ⟨logging.of_items items logging.events logging.flagged,
    congrArg (LoginView.mk · object.xmpp.lastInitState) items⟩

/-- The reply to a renewal leaves what the login looks like. -/
theorem loginView_workerReply {object : OnSipXmpp} (index : Nat) (event : Option XmppEvent)
    (logging : LoggingIn object.initStateMachine) :
    LoggingIn (object.workerReply index event).initStateMachine ∧
      (object.workerReply index event).loginView = object.loginView := by
  have same : (object.initStateMachine.stateHandlers.modify index (·.handleIqID event)).map
      InitStateHandler.currentState =
        object.initStateMachine.stateHandlers.map InitStateHandler.currentState := by
    refine List.ext_getElem? fun position => ?_
    rw [List.getElem?_map, List.getElem?_map, List.getElem?_modify]
    cases object.initStateMachine.stateHandlers[position]? with
    | none => rfl
    | some handler =>
      rw [Option.map_eq_map, Option.map_some, Option.map_some, Option.map_some]
      split_ifs <;> rfl
  exact object.loginView_stateHandlers _ same logging

/-- A message to the workers leaves what the login looks like. -/
theorem loginView_workerMessage {object : OnSipXmpp} (event : XmppEvent)
    (logging : LoggingIn object.initStateMachine) :
    LoggingIn (object.workerMessage event).initStateMachine ∧
      (object.workerMessage event).loginView = object.loginView := by
  have same : (object.initStateMachine.stateHandlers.map (·.handleMessage event)).map
      InitStateHandler.currentState =
        object.initStateMachine.stateHandlers.map InitStateHandler.currentState := by
    rw [List.map_map]
    rfl
  exact object.loginView_stateHandlers _ same logging

/-- What arrives gets the login on. -/
theorem getsOn_arrive {object : OnSipXmpp} (logging : LoggingIn object.initStateMachine)
    (arrival : Arrival) :
    LoggingIn (object.arrive arrival).initStateMachine ∧
      object.loginView.GetsOn (object.arrive arrival).loginView := by
  cases arrival with
  | event initReadings callReadings event fromConnection =>
    obtain ⟨machine, view⟩ := object.loginView_signalEvent initReadings callReadings
      { event with context := object.loginContext + event.context }
    have arrives : ({ event with
        context := object.loginContext + event.context } : XmppEvent).data.fromConnection = true :=
      fromConnection
    obtain ⟨next, getsOn⟩ := logging.signalEvent initReadings arrives object.xmpp
    show LoggingIn (object.signalEvent initReadings callReadings _).initStateMachine ∧
      object.loginView.GetsOn (object.signalEvent initReadings callReadings _).loginView
    rw [machine, view]
    exact ⟨next, getsOn⟩
  | workerReply index event =>
    obtain ⟨next, view⟩ := loginView_workerReply index event logging
    exact ⟨next, .stays view⟩
  | workerMessage event =>
    obtain ⟨next, view⟩ := loginView_workerMessage event logging
    exact ⟨next, .stays view⟩

end OnSipXmpp

namespace InitCall

open OnSipXmpp

/-- With a decided login the call returns after the `Poll`. -/
theorem result_polled_of_decided {object : OnSipXmpp}
    (decided : object.xmpp.lastInitState.Decided) :
    ∃ outcome, (polled object).result = some outcome := by
  unfold polled
  dsimp only
  split_ifs with failed succeeded
  · exact ⟨_, rfl⟩
  · exact ⟨_, rfl⟩
  · rcases decided with ok | fatal | disconnected
    · exact absurd ok succeeded
    · exact absurd (Or.inr fatal) failed
    · exact absurd (Or.inl disconnected) failed

theorem loginView_polled (object : OnSipXmpp) :
    (polled object).object.initStateMachine = object.initStateMachine ∧
      (polled object).object.loginView = object.loginView := by
  unfold polled
  dsimp only
  split_ifs
  · exact ⟨rfl, rfl⟩
  · exact ⟨rfl, rfl⟩
  · exact ⟨rfl, rfl⟩

/-- Every step of the call gets the login on. -/
theorem getsOn_step {call next : InitCall} {action : InitAction}
    (stepped : call.step action = some next)
    (logging : LoggingIn call.object.initStateMachine) :
    LoggingIn next.object.initStateMachine ∧
      call.object.loginView.GetsOn next.object.loginView := by
  have stays : LoggingIn call.object.initStateMachine ∧
      call.object.loginView.GetsOn call.object.loginView := ⟨logging, .stays rfl⟩
  cases action with
  | call action =>
    obtain ⟨⟨machine, last⟩, -⟩ := settled_call stepped
    unfold OnSipXmpp.loginView JnTapi.loginView
    rw [machine, last]
    exact stays
  | arrive arrival =>
    rcases step_arrive stepped with ⟨-, rfl⟩ | ⟨-, rfl⟩
    · exact stays
    · exact getsOn_arrive logging arrival
  | connected success =>
    rcases step_connected stepped with ⟨-, rfl⟩ | ⟨-, rfl⟩ <;> exact stays
  | checkStop signalled reading =>
    rcases step_checkStop stepped with ⟨-, rfl⟩ | ⟨-, rfl⟩ <;> exact stays
  | checkTime time loopTime readings reset =>
    rcases step_checkTime stepped with
      ⟨-, rfl⟩ | ⟨timeOut, -, ⟨-, rfl⟩ | ⟨-, -, rfl⟩ | ⟨-, -, rfl⟩⟩
    · exact stays
    · obtain ⟨machine, view⟩ := loginView_polled call.object
      rw [machine, view]
      exact stays
    · obtain ⟨polledLogging, ⟨same, -⟩ | ⟨lost, ahead⟩⟩ :=
        logging.pollMachine readings call.object.xmpp
      · exact ⟨polledLogging, .stays same⟩
      · exact ⟨polledLogging, .decides ((congrArg InitStates.Decided lost).mpr (by decide)) ahead⟩
    · exact stays
  | received error =>
    rcases step_received stepped with ⟨-, rfl⟩ | ⟨timeOut, -, rfl⟩ <;> exact stays

end InitCall

/-! ### Time -/

/-- The reading is taken at the true time, in milliseconds since the system has started. The clock
of the program counts from the start of the process. -/
def Reading.At (processStart : Long) (moment : Nat) (reading : Reading) : Prop :=
  reading.tickCount = BitVec.ofNat 32 moment ∧
    reading.clock = BitVec.ofNat 32 moment - processStart

namespace InitCall

/-- What the thread reads in the step -/
def Takes (call : InitCall) : InitAction → Reading → Prop
  | .checkStop _ reading, taken => taken = reading
  | .checkTime time loopTime readings _, taken =>
    taken = time ∨ taken = loopTime ∨ ∃ count, taken = readings.last.poll count
  | .call (.pollHandlers _), taken => ∃ timeOut, call.control = .pollingCalls timeOut taken
  | _, _ => False

/-- The longest that one `recv` and what comes with it may take, in milliseconds: a day -/
def day : Nat := 24 * 60 * 60 * 1000

/-- A run of the thread that goes on for ever, with the true time at which each step begins. The
clock advances, and as long as the function has not returned, every `recv` returns and is called
again. -/
structure Endless (processStart : Long) (call : Nat → InitCall) (action : Nat → InitAction)
    (time : Nat → Nat) : Prop where
  steps : ∀ step, (call step).step (action step) = some (call (step + 1))
  forward : Monotone time
  reads : ∀ step reading, (call step).Takes (action step) reading →
    ∃ moment, time step ≤ moment ∧ moment ≤ time (step + 1) ∧ reading.At processStart moment
  advances : ∀ bound, ∃ step, bound ≤ time step
  recvReturns : ∀ step, ∃ next, step < next ∧
    ((∃ error, action next = .received error) ∨ (call next).result.isSome = true) ∧
    time next ≤ time step + day

/-- The time-out of the `Poll` that the thread is in -/
def timeOut? (call : InitCall) : Option TimeOut :=
  match call.settled.1 with
  | .polling timeOut | .receiving timeOut => some timeOut
  | _ => none

/-- The timer of the loop, once the poll of the calls has reset it -/
def loopTimer (call : InitCall) : TimeOut := call.settled.2

/-- The `Poll`s run for a second, and the timer of the loop for a quarter of one. -/
structure Timers (call : InitCall) : Prop where
  poll : ∀ timeOut, call.timeOut? = some timeOut → timeOut.msecs = 1000
  loop : call.loopTimer.msecs = 250

/-- The thread looks at the timer of the loop. -/
def Looks (call : InitCall) (action : InitAction) : Prop :=
  ∃ timeOut now loopTime readings reset, call.control = .polling timeOut ∧
    action = .checkTime now loopTime readings reset ∧ timeOut.isExpired now = false

/-- The thread finds that the timer of the loop has run out, and polls the login. -/
def Polls (call : InitCall) (action : InitAction) (readings : StateMachineBase.PollReadings)
    (reset : Reading) : Prop :=
  ∃ timeOut now loopTime, call.control = .polling timeOut ∧
    action = .checkTime now loopTime readings reset ∧ timeOut.isExpired now = false ∧
    call.object.tmrConnectLoop.isExpired loopTime = true

/-- The thread finds that the time of the `Poll` is over. -/
def PollEnds (call : InitCall) (action : InitAction) : Prop :=
  ∃ timeOut now loopTime readings reset, call.control = .polling timeOut ∧
    action = .checkTime now loopTime readings reset ∧ timeOut.isExpired now = true

theorem timeOut?_polling {call : InitCall} {timeOut : TimeOut}
    (control : call.control = .polling timeOut) : call.timeOut? = some timeOut := by
  unfold timeOut? settled
  rw [control]

theorem loopTimer_polling {call : InitCall} {timeOut : TimeOut}
    (control : call.control = .polling timeOut) :
    call.loopTimer = call.object.tmrConnectLoop := by
  unfold loopTimer settled
  rw [control]

/-- What a step does to the timers: only a poll of the login resets that of the loop, and that of the
`Poll` lasts until its end. -/
theorem timers_step {call next : InitCall} {action : InitAction}
    (stepped : call.step action = some next) (goesOn : next.result = none) :
    (next.loopTimer = call.loopTimer ∨
      ∃ readings reset, call.Polls action readings reset ∧
        next.loopTimer = call.loopTimer.reset reset) ∧
    (next.timeOut? = call.timeOut? ∨
      (next.timeOut? = none ∧ call.PollEnds action) ∨
      ∃ reading, next.timeOut? = some (TimeOut.new reading 1000) ∧ call.control = .waiting) := by
  cases action with
  | call action =>
    have settled := (settled_call stepped).2
    unfold loopTimer timeOut?
    rw [settled]
    exact ⟨Or.inl rfl, Or.inl rfl⟩
  | arrive arrival =>
    rcases step_arrive stepped with ⟨-, rfl⟩ | ⟨⟨timeOut, control⟩ | control, rfl⟩
    · exact ⟨Or.inl rfl, Or.inl rfl⟩
    · unfold loopTimer timeOut? settled
      rw [control, OnSipXmpp.tmrConnectLoop_arrive]
      exact ⟨Or.inl rfl, Or.inl rfl⟩
    · unfold loopTimer timeOut? settled
      rw [control, OnSipXmpp.tmrConnectLoop_arrive]
      exact ⟨Or.inl rfl, Or.inl rfl⟩
  | connected success =>
    rcases step_connected stepped with ⟨-, rfl⟩ | ⟨control, rfl⟩
    · exact ⟨Or.inl rfl, Or.inl rfl⟩
    · unfold loopTimer timeOut? settled
      rw [control]
      cases success with
      | true => exact ⟨Or.inl rfl, Or.inl rfl⟩
      | false => exact ⟨Or.inl rfl, Or.inl rfl⟩
  | checkStop signalled reading =>
    rcases step_checkStop stepped with ⟨-, rfl⟩ | ⟨control, rfl⟩
    · exact ⟨Or.inl rfl, Or.inl rfl⟩
    · cases signalled with
      | true => cases goesOn
      | false =>
        refine ⟨Or.inl ?_, Or.inr (Or.inr ⟨reading, rfl, control⟩)⟩
        unfold loopTimer settled
        rw [control]
        rfl
  | checkTime time loopTime readings reset =>
    rcases step_checkTime stepped with
      ⟨-, rfl⟩ | ⟨timeOut, control, ⟨isOver, rfl⟩ | ⟨inTime, out, rfl⟩ | ⟨-, -, rfl⟩⟩
    · exact ⟨Or.inl rfl, Or.inl rfl⟩
    · have waits : polled call.object = ⟨.waiting, call.object⟩ := by
        by_cases decided : call.object.xmpp.lastInitState.Decided
        · obtain ⟨outcome, result⟩ := result_polled_of_decided decided
          rw [result] at goesOn
          cases goesOn
        · exact polled_of_not_decided decided
      rw [waits, loopTimer_polling control]
      exact ⟨Or.inl rfl, Or.inr (Or.inl ⟨rfl, timeOut, time, loopTime, readings, reset, control,
        rfl, isOver⟩)⟩
    · refine ⟨Or.inr ⟨readings, reset, ⟨timeOut, time, loopTime, control, rfl, inTime, out⟩, ?_⟩,
        Or.inl (timeOut?_polling control).symm⟩
      rw [loopTimer_polling control]
      rfl
    · refine ⟨Or.inl ?_, Or.inl (timeOut?_polling control).symm⟩
      rw [loopTimer_polling control]
      rfl
  | received error =>
    rcases step_received stepped with ⟨-, rfl⟩ | ⟨timeOut, control, rfl⟩
    · exact ⟨Or.inl rfl, Or.inl rfl⟩
    · by_cases fine : error = .connNoError
      · unfold loopTimer timeOut? settled
        rw [if_pos fine, control]
        exact ⟨Or.inl rfl, Or.inl rfl⟩
      · rw [if_neg fine] at goesOn
        cases goesOn

theorem Timers.step {call next : InitCall} {action : InitAction} (timers : call.Timers)
    (stepped : call.step action = some next) (goesOn : next.result = none) : next.Timers := by
  obtain ⟨loop, poll⟩ := timers_step stepped goesOn
  constructor
  · intro timeOut inside
    rcases poll with same | ⟨none, -⟩ | ⟨reading, begins, -⟩
    · exact timers.poll timeOut (same ▸ inside)
    · rw [none] at inside
      cases inside
    · rw [begins] at inside
      obtain rfl := Option.some.inj inside
      rfl
  · rcases loop with same | ⟨readings, reset, -, resets⟩
    · rw [same]
      exact timers.loop
    · rw [resets]
      exact timers.loop

/-- The call waits for the login: it is decided or some handler waits for an answer. -/
structure Awaited (call : InitCall) : Prop where
  logging : LoggingIn call.object.initStateMachine
  view : call.object.loginView.last.Decided ∨ call.object.loginView.Waits
  timers : call.result = none → call.Timers

theorem awaited_begin {object : OnSipXmpp} (queues : object.LoginQueues)
    (noShutdown : ∀ event ∈ object.initStateMachine.events, event.data ≠ .shutdownRequest)
    (reading : Reading) (loginInfo : LoginInfo) : (begin reading loginInfo object).Awaited := by
  obtain ⟨logging, waits⟩ := queues.begin noShutdown reading loginInfo
  refine ⟨logging, Or.inr waits, fun _ => ⟨fun timeOut inside => ?_, queues.timer⟩⟩
  cases inside

theorem Awaited.step {call next : InitCall} {action : InitAction} (awaited : call.Awaited)
    (stepped : call.step action = some next) : next.Awaited := by
  obtain ⟨logging, getsOn⟩ := getsOn_step stepped awaited.logging
  refine ⟨logging, ?_, fun goesOn => ?_⟩
  · rcases getsOn with same | ⟨decided, -⟩ | ⟨-, waits⟩
    · rw [same]
      exact awaited.view
    · exact Or.inl decided
    · exact Or.inr waits
  · refine (awaited.timers ?_).step stepped goesOn
    by_contra returned
    have same := step_returned (Option.isSome_iff_ne_none.mpr returned) stepped
    exact returned (same ▸ goesOn)

/-- A timer whose limit is shown in full has run out when its time has passed since its start, and
not much more. -/
theorem isExpired_since {processStart : Long} {timeOut : TimeOut} {limit moment time : Nat}
    {reading : Reading} (shown : TimeElapsed.ticksToMsecs limit = limit)
    (msecs : timeOut.msecs = BitVec.ofNat 32 limit)
    (marks : BitVec.ofNat 32 moment =
      processStart + timeOut.timer.start + BitVec.ofNat 32 limit)
    (after : moment ≤ time) (small : limit + (time - moment) < 2 ^ 31)
    (taken : reading.At processStart time) : timeOut.isExpired reading = true := by
  have clock : reading.clock - timeOut.timer.start =
      BitVec.ofNat 32 time - (processStart + timeOut.timer.start) := by
    rw [taken.2, BitVec.sub_sub]
  have passed := toInt_since marks after (by omega)
  have limitValue : timeOut.msecs.toInt = limit := by
    rw [msecs, BitVec.toInt_eq_toNat_cond, BitVec.toNat_ofNat]
    omega
  rw [TimeOut.isExpired, TimeElapsed.msecs, clock, passed, limitValue]
  refine decide_eq_true ?_
  rcases Nat.eq_zero_or_pos (time - moment) with none | more
  · rw [none, Nat.cast_zero, add_zero, shown]
  · have almost := (@TimeElapsed.ticksToMsecs_of_nonneg (limit + (time - moment : Nat))
      (by omega) (by omega)).2
    omega

/-! ### Where the thread comes by -/

/-- Outside of the loop of `Poll` the thread goes on to look at the timer. -/
theorem looks_of_outside {call next : InitCall} {action : InitAction}
    (outside : call.control = .waiting ∨ ∃ timeOut, call.control = .polling timeOut)
    (stepped : call.step action = some next) (goesOn : next.result = none) :
    (next.control = .waiting ∨ ∃ timeOut, next.control = .polling timeOut) ∨
      call.Looks action := by
  have elsewhere : ∀ {control : InitControl}, call.control = control → control ≠ .waiting →
      (∀ timeOut, control ≠ .polling timeOut) → False := by
    rintro control same notWaiting notPolling
    rcases outside with waiting | ⟨timeOut, polling⟩
    · exact notWaiting (same.symm.trans waiting)
    · exact notPolling timeOut (same.symm.trans polling)
  cases action with
  | call action =>
    rcases step_call stepped with rfl | ⟨object, -, ⟨-, rfl⟩ | ⟨timeOut, reset, control, -, -⟩⟩
    · exact Or.inl outside
    · exact Or.inl outside
    · exact (elsewhere control (by simp) (by simp)).elim
  | arrive arrival =>
    rcases step_arrive stepped with ⟨-, rfl⟩ | ⟨⟨timeOut, control⟩ | control, -⟩
    · exact Or.inl outside
    · exact (elsewhere control (by simp) (by simp)).elim
    · exact (elsewhere control (by simp) (by simp)).elim
  | connected success =>
    rcases step_connected stepped with ⟨-, rfl⟩ | ⟨control, -⟩
    · exact Or.inl outside
    · exact (elsewhere control (by simp) (by simp)).elim
  | checkStop signalled reading =>
    rcases step_checkStop stepped with ⟨-, rfl⟩ | ⟨-, rfl⟩
    · exact Or.inl outside
    · cases signalled with
      | true => cases goesOn
      | false => exact Or.inl (Or.inr ⟨_, rfl⟩)
  | checkTime time loopTime readings reset =>
    rcases step_checkTime stepped with
      ⟨-, rfl⟩ | ⟨timeOut, control, ⟨-, rfl⟩ | ⟨inTime, -⟩ | ⟨inTime, -⟩⟩
    · exact Or.inl outside
    · by_cases decided : call.object.xmpp.lastInitState.Decided
      · obtain ⟨outcome, result⟩ := result_polled_of_decided decided
        rw [result] at goesOn
        cases goesOn
      · rw [polled_of_not_decided decided]
        exact Or.inl (Or.inl rfl)
    · exact Or.inr ⟨timeOut, time, loopTime, readings, reset, control, rfl, inTime⟩
    · exact Or.inr ⟨timeOut, time, loopTime, readings, reset, control, rfl, inTime⟩
  | received error =>
    rcases step_received stepped with ⟨-, rfl⟩ | ⟨timeOut, control, -⟩
    · exact Or.inl outside
    · exact (elsewhere control (by simp) (by simp)).elim

/-- The poll of the calls ends with the reset of the timer. -/
theorem resets_of_pollingCalls {call next : InitCall} {action : InitAction} {timeOut : TimeOut}
    {reset : Reading} (inside : call.control = .pollingCalls timeOut reset)
    (stepped : call.step action = some next) :
    next.control = .pollingCalls timeOut reset ∨ call.Takes action reset := by
  cases action with
  | call action =>
    rw [step, inside] at stepped
    obtain ⟨object, -, rfl⟩ := Option.map_eq_some_iff.mp stepped
    cases action with
    | pollHandlers readings => exact Or.inr ⟨timeOut, inside⟩
    | _ => exact Or.inl rfl
  | _ =>
    rw [step, inside] at stepped
    cases stepped

/-- A poll of the login is followed by that of the calls, which resets the timer. -/
theorem pollingCalls_of_polls {call next : InitCall} {action : InitAction}
    {readings : StateMachineBase.PollReadings} {reset : Reading}
    (polls : call.Polls action readings reset) (stepped : call.step action = some next) :
    (∃ timeOut, next.control = .pollingCalls timeOut reset) ∧
      next.loopTimer = call.object.tmrConnectLoop.reset reset ∧
      next.object = call.object.pollInit readings := by
  obtain ⟨timeOut, now, loopTime, control, rfl, inTime, out⟩ := polls
  rw [step, control] at stepped
  dsimp only at stepped
  rw [if_neg (by simp [inTime]), if_pos out] at stepped
  obtain rfl := Option.some.inj stepped
  exact ⟨⟨timeOut, rfl⟩, rfl, rfl⟩

/-- With a decided login the end of the `Poll` is that of the call. -/
theorem returned_of_pollEnds {call next : InitCall} {action : InitAction}
    (ends : call.PollEnds action) (stepped : call.step action = some next)
    (decided : call.object.xmpp.lastInitState.Decided) : next.result.isSome = true := by
  obtain ⟨timeOut, now, loopTime, readings, reset, control, rfl, isOver⟩ := ends
  rw [step, control] at stepped
  dsimp only at stepped
  rw [if_pos isOver] at stepped
  obtain rfl := Option.some.inj stepped
  exact Option.isSome_iff_exists.mpr (result_polled_of_decided decided)

section endless

variable {processStart : Long} {call : Nat → InitCall} {action : Nat → InitAction}
  {time : Nat → Nat}

/-- In a call that does not return, `recv` returns again and again. -/
theorem Endless.received (endless : Endless processStart call action time)
    (never : ∀ step, (call step).result = none) :
    Recurs time (fun step => ∃ error, action step = .received error) 0 day := by
  intro step _
  obtain ⟨next, later, received | returned, soon⟩ := endless.recvReturns step
  · exact ⟨next, later, received, soon⟩
  · rw [never next] at returned
    cases returned

theorem receiving_of_received {earlier next : InitCall} {error : ConnectionError}
    (stepped : earlier.step (.received error) = some next) (waits : earlier.result = none)
    (goesOn : next.result = none) :
    (∃ timeOut, earlier.control = .receiving timeOut) ∧
      ∃ timeOut, next.control = .polling timeOut := by
  obtain ⟨timeOut, control, rfl⟩ := (step_received stepped).resolve_left fun done => by
    rw [waits] at done
    cases done.1
  refine ⟨⟨timeOut, control⟩, timeOut, ?_⟩
  by_cases fine : error = .connNoError
  · rw [if_pos fine]
  · rw [if_neg fine] at goesOn
    cases goesOn

/-- Between two returns of `recv` the thread looks at the timer. -/
theorem Endless.looks (endless : Endless processStart call action time)
    (never : ∀ step, (call step).result = none) :
    Recurs time (fun step => (call step).Looks (action step)) 0 (2 * day) := by
  intro step _
  obtain ⟨first, afterStep, ⟨error, isFirst⟩, firstSoon⟩ :=
    endless.received never step (Nat.zero_le _)
  obtain ⟨second, afterFirst, ⟨other, isSecond⟩, secondSoon⟩ :=
    endless.received never first (Nat.zero_le _)
  have stepped := endless.steps
  have begins := (receiving_of_received (isFirst ▸ stepped first) (never _) (never _)).2
  obtain ⟨timeOut, ends⟩ := (receiving_of_received (isSecond ▸ stepped second) (never _) (never _)).1
  obtain ⟨look, from_, before, looks⟩ := exists_end (Nat.succ_le_of_lt afterFirst)
    (Or.inr begins) (fun between _ outside => looks_of_outside outside (stepped between) (never _))
    (by rw [ends]; simp)
  have soon : time look ≤ time second := endless.forward before.le
  exact ⟨look, by omega, looks, by omega⟩

/-! ### What the time brings -/

variable (endless : Endless processStart call action time)
  (never : ∀ step, (call step).result = none)

include endless never

/-- A timer that is looked at for ever runs out: from the step on, some look at the timer of the
loop or at the time of the `Poll` finds so much later that the limit has passed. -/
theorem exists_look {first limit : Nat} (small : limit ≤ 1000)
    (shown : TimeElapsed.ticksToMsecs limit = limit) (start : Long) {target : Nat}
    (later : time first < target) (marks : BitVec.ofNat 32 target =
      processStart + start + BitVec.ofNat 32 limit) :
    ∃ look, first < look ∧ (call look).Looks (action look) ∧ time look < target + 2 * day ∧
      ∀ (timeOut : TimeOut) (reading : Reading),
        timeOut.msecs = BitVec.ofNat 32 limit → timeOut.timer.start = start →
        (call look).Takes (action look) reading → timeOut.isExpired reading = true := by
  have looks := endless.looks never
  obtain ⟨look, after, isLook, atLeast, soon⟩ := (looks.later (Nat.zero_le first)).visits
    endless.forward endless.advances later
  refine ⟨look, after, isLook, soon, ?_⟩
  rintro timeOut reading msecs rfl takes
  obtain ⟨moment, notBefore, notAfter, taken⟩ := endless.reads look reading takes
  have short := looks.step_le endless.forward (Nat.zero_le look)
  have bound : day = 86400000 := rfl
  exact isExpired_since shown msecs marks (by omega) (by omega) taken

/-- While no poll of the login comes, the timer of the loop stays. -/
theorem loopTimer_constant {first last : Nat} (after : first ≤ last)
    (none : ∀ step, first ≤ step → step < last → ∀ readings reset,
      ¬ (call step).Polls (action step) readings reset) :
    (call last).loopTimer = (call first).loopTimer := by
  induction last, after using Nat.le_induction with
  | base => rfl
  | succ last after inductionHypothesis =>
    have earlier := inductionHypothesis fun step from_ before => none step from_ (by omega)
    rcases (timers_step (endless.steps last) (never _)).1 with same | ⟨readings, reset, polls, -⟩
    · exact same.trans earlier
    · exact absurd polls (none last after (by omega) readings reset)

/-- The login is polled after the step, and not long after the timer of the loop has run out. -/
theorem exists_poll (timers : ∀ step, (call step).Timers) {first target : Nat}
    (later : time first < target)
    (marks : BitVec.ofNat 32 target =
      processStart + (call first).loopTimer.timer.start + BitVec.ofNat 32 250) :
    ∃ poll, first ≤ poll ∧ (∃ readings reset, (call poll).Polls (action poll) readings reset) ∧
      time poll < target + 2 * day := by
  obtain ⟨look, after, looks, soon, expired⟩ := exists_look endless never
    (by omega) (by decide) (call first).loopTimer.timer.start later marks
  by_contra none
  push Not at none
  have constant := loopTimer_constant endless never after.le
    fun step from_ before readings reset polls => by
      have early : time step ≤ time look := endless.forward before.le
      have late := none step from_ ⟨readings, reset, polls⟩
      omega
  obtain ⟨timeOut, now, loopTime, readings, reset, control, isCheck, inTime⟩ := looks
  have out : (call look).object.tmrConnectLoop.isExpired loopTime = true := by
    rw [← loopTimer_polling control]
    refine expired _ loopTime (timers look).loop (congrArg (·.timer.start) constant) ?_
    rw [isCheck]
    exact Or.inr (Or.inl rfl)
  have late := none look after.le
    ⟨readings, reset, timeOut, now, loopTime, control, isCheck, inTime, out⟩
  omega

/-- Each poll of the login is followed by the next one. -/
theorem next_poll (timers : ∀ step, (call step).Timers) {first : Nat}
    {readings : StateMachineBase.PollReadings} {reset : Reading}
    (polls : (call first).Polls (action first) readings reset) :
    ∃ next, first < next ∧ (∃ readings reset, (call next).Polls (action next) readings reset) ∧
      time next ≤ time first + 4 * day := by
  obtain ⟨⟨timeOut, control⟩, timer, -⟩ := pollingCalls_of_polls polls (endless.steps first)
  obtain ⟨received, after, ⟨error, isReceived⟩, soon⟩ :=
    endless.received never first (Nat.zero_le _)
  obtain ⟨other, receiving⟩ :=
    (receiving_of_received (isReceived ▸ endless.steps received) (never _) (never _)).1
  obtain ⟨resets, from_, before, takes⟩ := exists_end (Nat.succ_le_of_lt after) control
    (fun between _ inside => resets_of_pollingCalls inside (endless.steps between))
    (by rw [receiving]; simp)
  obtain ⟨moment, notBefore, notAfter, -, clock⟩ := endless.reads resets reset takes
  have bounds : time (first + 1) ≤ time resets ∧ time (resets + 1) ≤ time received :=
    ⟨endless.forward from_, endless.forward before⟩
  have marks : BitVec.ofNat 32 (moment + 250) = processStart +
      (call (first + 1)).loopTimer.timer.start + BitVec.ofNat 32 250 := by
    rw [timer]
    show _ = processStart + reset.clock + _
    rw [clock, BitVec.ofNat_add, BitVec.add_comm processStart, BitVec.sub_add_cancel]
  obtain ⟨poll, later, polled, early⟩ := exists_poll endless never timers (by omega) marks
  have bound : day = 86400000 := rfl
  exact ⟨poll, by omega, polled, by omega⟩

/-- The login is polled again and again. -/
theorem exists_recurs_polls (timers : ∀ step, (call step).Timers) (first : Nat) :
    ∃ poll, first ≤ poll ∧ Recurs time
      (fun step => ∃ readings reset, (call step).Polls (action step) readings reset)
      poll (4 * day) := by
  obtain ⟨target, later, marks⟩ := exists_time
    (processStart + (call first).loopTimer.timer.start + BitVec.ofNat 32 250) (time first)
  obtain ⟨poll, from_, polls, -⟩ := exists_poll endless never timers later marks
  refine ⟨poll, from_, recurs_of_next endless.forward polls ?_⟩
  rintro step - ⟨readings, reset, polls⟩
  exact next_poll endless never timers polls

/-- A decided login would end the `Poll` and the call with it. -/
theorem not_decided_for_ever (timers : ∀ step, (call step).Timers) (first : Nat) :
    ∃ step, first ≤ step ∧ ¬ (call step).object.xmpp.lastInitState.Decided := by
  by_contra always
  push Not at always
  obtain ⟨look, from_, ⟨timeOut, now, loopTime, readings, reset, control, -, -⟩, -⟩ :=
    endless.looks never first (Nat.zero_le _)
  have stays : ∀ step, look ≤ step → (call step).timeOut? = some timeOut := by
    intro step after
    induction step, after using Nat.le_induction with
    | base => exact timeOut?_polling control
    | succ step after inductionHypothesis =>
      rcases (timers_step (endless.steps step) (never _)).2 with
        same | ⟨-, ends⟩ | ⟨reading, -, waiting⟩
      · exact same.trans inductionHypothesis
      · have returned := returned_of_pollEnds ends (endless.steps step) (always step (by omega))
        rw [never] at returned
        cases returned
      · unfold timeOut? settled at inductionHypothesis
        rw [waiting] at inductionHypothesis
        cases inductionHypothesis
  obtain ⟨target, later, marks⟩ := exists_time
    (processStart + timeOut.timer.start + BitVec.ofNat 32 1000) (time look)
  obtain ⟨last, after, ⟨other, later, _, _, _, here, isCheck, inTime⟩, -, expired⟩ :=
    exists_look endless never (by omega) (by decide) timeOut.timer.start later marks
  obtain rfl : other = timeOut :=
    Option.some.inj ((timeOut?_polling here).symm.trans (stays last after.le))
  have isOver := expired other later ((timers look).poll other (timeOut?_polling control)) rfl
    (by rw [isCheck]; exact Or.inl rfl)
  rw [isOver] at inTime
  cases inTime

/-- From some step on nothing changes any more, and a handler waits. -/
theorem exists_still (awaited : ∀ step, (call step).Awaited) :
    ∃ first, (∀ step, first ≤ step →
        (call step).object.loginView = (call first).object.loginView) ∧
      ¬ (call first).object.loginView.last.Decided ∧ (call first).object.loginView.Waits := by
  have timers := fun step => (awaited step).timers (never step)
  have getsOn : ∀ step, (call step).object.loginView.GetsOn (call (step + 1)).object.loginView :=
    fun step => (getsOn_step (endless.steps step) (awaited step).logging).2
  obtain ⟨first, constant⟩ := @exists_constant (fun step => (call step).object.loginView.ahead)
    fun step => (getsOn step).ahead_le
  -- After the last answer that does not decide, a decision would be final.
  have final : ∀ step, first ≤ step → (call step).object.loginView.last.Decided →
      (call (step + 1)).object.loginView.last.Decided := by
    intro step after decided
    rcases getsOn step with same | ⟨next, -⟩ | ⟨fewer, -⟩
    · rw [same]
      exact decided
    · exact next
    · have still := (constant (step + 1) (by omega)).trans (constant step after).symm
      exact absurd fewer (by omega)
  have undecided : ∀ step, first ≤ step → ¬ (call step).object.loginView.last.Decided := by
    intro step after decided
    obtain ⟨later, from_, notDecided⟩ := not_decided_for_ever endless never timers step
    refine notDecided ?_
    induction later, from_ using Nat.le_induction with
    | base => exact decided
    | succ later from_ inductionHypothesis =>
      by_cases earlier : (call later).object.loginView.last.Decided
      · exact final later (after.trans from_) earlier
      · exact absurd (inductionHypothesis earlier) earlier
  have stays : ∀ step, first ≤ step →
      (call (step + 1)).object.loginView = (call step).object.loginView := by
    intro step after
    rcases getsOn step with same | ⟨decided, -⟩ | ⟨fewer, -⟩
    · exact same
    · exact absurd decided (undecided (step + 1) (by omega))
    · have still := (constant (step + 1) (by omega)).trans (constant step after).symm
      exact absurd fewer (by omega)
  refine ⟨first, fun step after => ?_, undecided first (le_refl first),
    (awaited first).view.resolve_left (undecided first (le_refl first))⟩
  induction step, after using Nat.le_induction with
  | base => rfl
  | succ step after inductionHypothesis => exact (stays step after).trans inductionHypothesis

end endless

/-- The login does not go on for ever without a change: a handler that waits is found to have waited
for too long. -/
theorem Endless.returns {processStart : Long} {call : Nat → InitCall} {action : Nat → InitAction}
    {time : Nat → Nat} (endless : Endless processStart call action time)
    (begins : (call 0).Awaited) : ∃ step, (call step).result.isSome = true := by
  by_contra waits
  have never : ∀ step, (call step).result = none := by
    intro step
    by_contra returned
    exact waits ⟨step, Option.isSome_iff_ne_none.mpr returned⟩
  have awaited : ∀ step, (call step).Awaited := by
    intro step
    induction step with
    | zero => exact begins
    | succ step inductionHypothesis => exact inductionHypothesis.step (endless.steps step)
  have timers := fun step => (awaited step).timers (never step)
  obtain ⟨first, still, undecided, item, member, waiting⟩ := exists_still endless never awaited
  obtain ⟨index, found⟩ := List.mem_iff_getElem?.mp member
  obtain ⟨start, from_, polls⟩ := exists_recurs_polls endless never timers first
  obtain ⟨target, later, marks⟩ :=
    exists_time (item.lastStateChange + BitVec.ofNat 32 15001) (time start)
  obtain ⟨poll, after, ⟨readings, reset, polled⟩, atLeast, soon⟩ :=
    polls.visits endless.forward endless.advances later
  have left := (pollingCalls_of_polls polled (endless.steps poll)).2.2
  have takes : (call poll).Takes (action poll) (readings.last.poll index) := by
    obtain ⟨timeOut, now, loopTime, -, isCheck, -⟩ := polled
    rw [isCheck]
    exact Or.inr (Or.inr ⟨index, rfl⟩)
  obtain ⟨moment, notBefore, notAfter, tick, -⟩ := endless.reads poll _ takes
  have short := polls.step_le endless.forward after.le
  have bound : day = 86400000 := rfl
  have late : InitStateHandler.Late (readings.last.poll index) item := by
    unfold InitStateHandler.Late StateItem.msecsSinceLastStateChange
    rw [tick, toInt_since marks (by omega) (by omega)]
    have limit : InitStateHandler.generalCommunicationTimeout = 15000 := rfl
    omega
  rcases ((awaited poll).logging.pollMachine readings (call poll).object.xmpp).2 with
    ⟨-, inTime⟩ | ⟨lost, -⟩
  · refine inTime index item ?_ waiting late
    show (call poll).object.loginView.items[index]? = some item
    rw [still poll (from_.trans after.le)]
    exact found
  · have next : (call (poll + 1)).object.loginView.last = .disconnected := by
      rw [left]
      exact lost
    rw [still (poll + 1) (by omega)] at next
    exact undecided (by rw [next]; decide)

end InitCall

/-! ### Calls that return after some steps -/

namespace Example

open InitCall

/-- The true time of each step: first those of the steps themselves, then one a millisecond -/
def timeOf (steps : List (Nat × InitAction)) (after : Nat) (step : Nat) : Nat :=
  match steps[step]? with
  | some (time, _) => time
  | none => after + step

/-- A call that has returned takes no notice of anything. -/
def actionOf (steps : List (Nat × InitAction)) (step : Nat) : InitAction :=
  match steps[step]? with
  | some (_, action) => action
  | none => .connected true

def callOf (start : InitCall) (steps : List (Nat × InitAction)) : Nat → InitCall
  | 0 => start
  | step + 1 =>
    ((callOf start steps step).step (actionOf steps step)).getD (callOf start steps step)

/-- The poll of the calls takes the reading of the reset after it. -/
theorem reset_of_takes {call : InitCall} {timeOut : TimeOut} {reset taken : Reading}
    (here : call.control = .pollingCalls timeOut reset)
    (takes : ∃ timeOut, call.control = .pollingCalls timeOut taken) : taken = reset := by
  obtain ⟨other, same⟩ := takes
  exact (InitControl.pollingCalls.inj (here.symm.trans same)).2.symm

section callOf

variable {start : InitCall} {steps : List (Nat × InitAction)} {after : Nat}

theorem later_of_length (step : Nat) :
    actionOf steps (steps.length + step) = .connected true ∧
      timeOf steps after (steps.length + step) = after + (steps.length + step) := by
  have none : steps[steps.length + step]? = none :=
    List.getElem?_eq_none (Nat.le_add_right _ step)
  unfold actionOf timeOf
  rw [none]
  exact ⟨rfl, rfl⟩

/-- A call that has returned stays as it is. -/
theorem callOf_later (returned : (callOf start steps steps.length).result.isSome = true)
    (step : Nat) : callOf start steps (steps.length + step) = callOf start steps steps.length ∧
      (callOf start steps (steps.length + step)).step (actionOf steps (steps.length + step)) =
        some (callOf start steps (steps.length + step)) := by
  have ignores : ∀ call : InitCall, call.result.isSome = true →
      call.step (.connected true) = some call := by
    intro call isSome
    unfold result at isSome
    rw [InitCall.step]
    cases control : call.control with
    | returned initialized stateType => rfl
    | _ =>
      rw [control] at isSome
      cases isSome
  have connected : ∀ step, actionOf steps (steps.length + step) = .connected true := fun step =>
    (@later_of_length steps 0 step).1
  have same : callOf start steps (steps.length + step) = callOf start steps steps.length := by
    induction step with
    | zero => rfl
    | succ step inductionHypothesis =>
      rw [← Nat.add_assoc, callOf, connected, inductionHypothesis, ignores _ returned,
        Option.getD_some]
  refine ⟨same, ?_⟩
  rw [connected, same]
  exact ignores _ returned

/-- A call that returns after some steps is one that goes on for ever. -/
theorem endless_callOf (returned : (callOf start steps steps.length).result.isSome = true)
    (goes : ∀ step < steps.length, (callOf start steps step).step (actionOf steps step) =
      some (callOf start steps (step + 1)))
    (forward : ∀ step < steps.length, timeOf steps after step ≤ timeOf steps after (step + 1))
    (reads : ∀ step < steps.length, ∀ taken,
      (callOf start steps step).Takes (actionOf steps step) taken →
        taken = reading (timeOf steps after step))
    (short : after + 2 * steps.length < day) :
    Endless 0 (callOf start steps) (actionOf steps) (timeOf steps after) := by
  have monotone : Monotone (timeOf steps after) := by
    refine monotone_nat_of_le_succ fun step => ?_
    by_cases early : step < steps.length
    · exact forward step early
    · obtain ⟨later, rfl⟩ := Nat.exists_eq_add_of_le (not_lt.mp early)
      rw [(later_of_length later).2, Nat.add_assoc, (later_of_length (later + 1)).2]
      omega
  refine ⟨fun step => ?_, monotone, fun step taken takes => ?_, fun bound => ?_, fun step => ?_⟩
  · by_cases early : step < steps.length
    · exact goes step early
    · obtain ⟨later, rfl⟩ := Nat.exists_eq_add_of_le (not_lt.mp early)
      rw [(callOf_later returned later).2, (callOf_later returned later).1, Nat.add_assoc,
        (callOf_later returned (later + 1)).1]
  · refine ⟨timeOf steps after step, le_refl _, monotone (Nat.le_succ step), ?_⟩
    by_cases early : step < steps.length
    · rw [reads step early taken takes]
      exact ⟨rfl, (BitVec.sub_zero _).symm⟩
    · obtain ⟨later, rfl⟩ := Nat.exists_eq_add_of_le (not_lt.mp early)
      rw [(@later_of_length steps 0 later).1] at takes
      exact takes.elim
  · refine ⟨steps.length + bound, ?_⟩
    rw [(later_of_length bound).2]
    omega
  · refine ⟨steps.length + (step + 1), by omega, Or.inr ?_, ?_⟩
    · rw [(callOf_later returned (step + 1)).1]
      exact returned
    · rw [(later_of_length (step + 1)).2]
      by_cases early : step < steps.length
      · omega
      · obtain ⟨later, rfl⟩ := Nat.exists_eq_add_of_le (not_lt.mp early)
        rw [(later_of_length later).2]
        omega

end callOf

end Example

/-! ### A server that never answers -/

namespace Example

open InitCall

end Example

end JnTapi
