/-
This file proves when a login that has failed is reported as fatal.

The handler of the session notifies its error state at once, but `InitOnSipTapi`
looks at the last notified state only when its `Poll` is over. Until then another
event may take a handler to another state, and an error of `recv` ends the call
without a look at the state.
-/

import JnTapi.ConnectionThread
import JnTapi.Init.Turns
import JnTapi.InitReturns

namespace JnTapi

open Library

/-- The handler of the session, which `Start` adds last, is in an error state. -/
def OnSipXmpp.InError (object : OnSipXmpp) : Prop :=
  ∃ handler ∈ object.drivers.getLast?, getInitStatesType handler.state = .fatal

namespace InitCall

open OnSipXmpp

/-- The handler of the session enters an error state. -/
def Enters (before after : InitCall) : Prop := ¬ before.object.InError ∧ after.object.InError

/-- The state that the step takes a handler of the login to, if it takes one to another -/
def turn? (call : InitCall) : InitAction → Option InitStates
  | .arrive (.event initReadings _ event _) =>
    InitStateHandler.stateAfterEvent? initReadings.offer
      { event with context := call.object.loginContext + event.context } call.object.xmpp
      call.object.initStateMachine.stateHandlers
  | .checkTime time loopTime readings _ =>
    match call.control with
    | .polling timeOut =>
      if timeOut.isExpired time = false ∧ call.object.tmrConnectLoop.isExpired loopTime = true then
        InitStateHandler.stateAfterPoll? readings.last.poll call.object.xmpp call.object.drivers
      else none
    | _ => none
  | _ => none

/-- The step takes no handler of the login to a state that is not an error, and nothing fails. -/
def Undisturbed (call : InitCall) (action : InitAction) : Prop :=
  ¬ fails action ∧ ∀ state ∈ call.turn? action, getInitStatesType state = .fatal

theorem turn?_checkTime {call : InitCall} {timeOut : TimeOut} {time loopTime : Reading}
    {readings : StateMachineBase.PollReadings} {reset : Reading}
    (control : call.control = .polling timeOut) :
    call.turn? (.checkTime time loopTime readings reset) =
      if timeOut.isExpired time = false ∧ call.object.tmrConnectLoop.isExpired loopTime = true then
        InitStateHandler.stateAfterPoll? readings.last.poll call.object.xmpp call.object.drivers
      else none := by
  rw [turn?, control]

/-! ### One step -/

/-- The turn of a step of the call -/
theorem turns_step {call next : InitCall} {action : InitAction}
    (stepped : call.step action = some next) (waits : call.result = none)
    (logging : LoggingIn call.object.initStateMachine) :
    call.object.loginView.Turns next.object.loginView (call.turn? action) := by
  have notReturned : ¬ call.result.isSome := by simp [waits]
  cases action with
  | call action =>
    obtain ⟨⟨machine, last⟩, -⟩ := settled_call stepped
    refine .stays ?_
    unfold OnSipXmpp.loginView JnTapi.loginView
    rw [machine, last]
  | arrive arrival =>
    obtain ⟨-, rfl⟩ := (step_arrive stepped).resolve_left fun done => notReturned done.1
    cases arrival with
    | event initReadings callReadings event fromConnection =>
      obtain ⟨-, view⟩ := call.object.loginView_signalEvent initReadings callReadings
        { event with context := call.object.loginContext + event.context }
      have arrives : ({ event with context := call.object.loginContext + event.context } :
        XmppEvent).data.fromConnection = true := fromConnection
      show LoginView.Turns _ (call.object.signalEvent initReadings callReadings _).loginView _
      rw [view]
      exact logging.turns_signalEvent initReadings arrives call.object.xmpp
    | workerReply index event => exact .stays (loginView_workerReply index event logging).2
    | workerMessage event => exact .stays (loginView_workerMessage event logging).2
  | connected success =>
    obtain ⟨-, rfl⟩ := (step_connected stepped).resolve_left fun done => notReturned done.1
    exact .stays rfl
  | checkStop signalled reading =>
    obtain ⟨-, rfl⟩ := (step_checkStop stepped).resolve_left fun done => notReturned done.1
    exact .stays rfl
  | checkTime time loopTime readings reset =>
    obtain ⟨timeOut, control, ⟨isOver, rfl⟩ | ⟨inTime, out, rfl⟩ | ⟨inTime, notOut, rfl⟩⟩ :=
      (step_checkTime stepped).resolve_left fun done => notReturned done.1
    · rw [turn?_checkTime control, if_neg (by simp [isOver])]
      exact .stays (loginView_polled call.object).2
    · rw [turn?_checkTime control, if_pos ⟨inTime, out⟩]
      exact logging.turns_pollMachine readings call.object.xmpp
    · rw [turn?_checkTime control, if_neg (by simp [notOut])]
      exact .stays rfl
  | received error =>
    obtain ⟨timeOut, -, rfl⟩ := (step_received stepped).resolve_left fun done => notReturned done.1
    exact .stays rfl

/-- What an object is in an error with can be seen. -/
theorem inError_iff {object : OnSipXmpp} :
    object.InError ↔
      ∃ item ∈ object.loginView.items.getLast?, getInitStatesType item.state = .fatal := by
  show _ ↔ ∃ item ∈ (object.drivers.map InitStateHandler.currentState).getLast?, _
  rw [OnSipXmpp.InError, List.getLast?_map]
  constructor
  · rintro ⟨handler, last, fatal⟩
    exact ⟨handler.currentState, Option.mem_map_of_mem _ last, fatal⟩
  · rintro ⟨item, last, fatal⟩
    obtain ⟨handler, member, rfl⟩ := Option.mem_map.mp last
    exact ⟨handler, member, fatal⟩

/-- The machine has no handler before the first `Poll`. -/
def NoneYet (call : InitCall) : Prop :=
  call.control = .connecting → call.object.initStateMachine.stateHandlers = []

/-- The thread is in a `Poll`, and an error state was notified last. -/
structure Failing (call : InitCall) : Prop where
  poll : call.timeOut?.isSome = true
  last : getInitStatesType call.object.loginView.last = .fatal

theorem Failing.waits {call : InitCall} (failing : call.Failing) : call.result = none := by
  have poll := failing.poll
  unfold timeOut? settled at poll
  unfold result
  cases control : call.control with
  | returned initialized stateType =>
    rw [control] at poll
    cases poll
  | _ => rfl

/-- When the handler of the session enters an error state, this is in a `Poll`, and the error state
is notified. -/
theorem Enters.failing {call next : InitCall} {action : InitAction} (enters : Enters call next)
    (stepped : call.step action = some next) (logging : LoggingIn call.object.initStateMachine)
    (noneYet : call.NoneYet) : next.Failing := by
  have waits : call.result = none := by
    by_contra returned
    have same := step_returned (Option.isSome_iff_ne_none.mpr returned) stepped
    exact enters.1 (same ▸ enters.2)
  have notReturned : ¬ call.result.isSome := by simp [waits]
  have turns := turns_step stepped waits logging
  obtain ⟨item, new, fatal⟩ := inError_iff.mp enters.2
  have turn : call.turn? action = some item.state := by
    refine turns.of_last new fun earlier old same => enters.1 (inError_iff.mpr ⟨earlier, old, ?_⟩)
    rw [same]
    exact fatal
  refine ⟨?_, by rw [turns.last, turn]; exact fatal⟩
  cases action with
  | arrive arrival =>
    obtain ⟨⟨timeOut, control⟩ | control, rfl⟩ :=
      (step_arrive stepped).resolve_left fun done => notReturned done.1
    · unfold timeOut? settled
      rw [control]
      rfl
    · have none := noneYet control
      cases arrival with
      | event initReadings callReadings event fromConnection =>
        rw [turn?, none] at turn
        cases turn
      | _ => cases turn
  | checkTime time loopTime readings reset =>
    obtain ⟨timeOut, control, ⟨isOver, rfl⟩ | ⟨-, -, rfl⟩ | ⟨-, -, rfl⟩⟩ :=
      (step_checkTime stepped).resolve_left fun done => notReturned done.1
    · rw [turn?_checkTime control, if_neg (by simp [isOver])] at turn
      cases turn
    · rfl
    · rfl
  | _ => cases turn

/-- A `Poll` that ends with an error state ends the call. -/
theorem polled_of_fatal {object : OnSipXmpp}
    (fatal : getInitStatesType object.xmpp.lastInitState = .fatal) :
    polled object = ⟨.returned false .fatal, object⟩ := by
  unfold polled
  rw [fatal]
  rfl

/-- As long as nothing disturbs it, the error state stays until the call returns. -/
theorem Failing.step {call next : InitCall} {action : InitAction} (failing : call.Failing)
    (stepped : call.step action = some next) (logging : LoggingIn call.object.initStateMachine)
    (undisturbed : call.Undisturbed action) :
    next.Failing ∨ next.result = some (false, .fatal) := by
  have notReturned : ¬ call.result.isSome := by simp [failing.waits]
  have last : getInitStatesType next.object.loginView.last = .fatal := by
    rw [(turns_step stepped failing.waits logging).last]
    cases turn : call.turn? action with
    | none => exact failing.last
    | some state => exact undisturbed.2 state turn
  have elsewhere : ∀ {control : InitControl}, call.control = control →
      (InitCall.mk control call.object).timeOut? = none → False := by
    rintro control rfl outside
    have poll := failing.poll
    have same : call.timeOut? = none := outside
    rw [same] at poll
    cases poll
  cases action with
  | call action =>
    refine Or.inl ⟨?_, last⟩
    unfold timeOut?
    rw [(settled_call stepped).2]
    exact failing.poll
  | arrive arrival =>
    obtain ⟨⟨timeOut, control⟩ | control, rfl⟩ :=
      (step_arrive stepped).resolve_left fun done => notReturned done.1
    · refine Or.inl ⟨?_, last⟩
      unfold timeOut? settled
      rw [control]
      rfl
    · exact (elsewhere control rfl).elim
  | connected success =>
    obtain ⟨control, -⟩ := (step_connected stepped).resolve_left fun done => notReturned done.1
    exact (elsewhere control rfl).elim
  | checkStop signalled reading =>
    obtain ⟨control, -⟩ := (step_checkStop stepped).resolve_left fun done => notReturned done.1
    exact (elsewhere control rfl).elim
  | checkTime time loopTime readings reset =>
    obtain ⟨timeOut, -, ⟨-, rfl⟩ | ⟨-, -, rfl⟩ | ⟨-, -, rfl⟩⟩ :=
      (step_checkTime stepped).resolve_left fun done => notReturned done.1
    · right
      rw [polled_of_fatal failing.last]
      rfl
    · exact Or.inl ⟨rfl, last⟩
    · exact Or.inl ⟨rfl, last⟩
  | received error =>
    obtain ⟨timeOut, -, rfl⟩ := (step_received stepped).resolve_left fun done => notReturned done.1
    have fine : error = .connNoError := by
      by_contra failed
      exact undisturbed.1 failed
    refine Or.inl ⟨?_, last⟩
    rw [if_pos fine]
    rfl

/-! ### Whole calls -/

theorem NoneYet.step {call next : InitCall} {action : InitAction} (noneYet : call.NoneYet)
    (stepped : call.step action = some next) : next.NoneYet := by
  cases action with
  | call action =>
    intro control
    rcases step_call stepped with rfl | ⟨object, called, ⟨-, rfl⟩ | ⟨timeOut, reset, -, -, rfl⟩⟩
    · exact noneYet control
    · obtain ⟨⟨machine, -⟩, -⟩ := sameLogin_call called
      rw [machine]
      exact noneYet control
    · cases control
  | arrive arrival =>
    rcases step_arrive stepped with ⟨-, rfl⟩ | ⟨-, rfl⟩
    · exact noneYet
    · intro control
      have none := noneYet control
      show (call.object.arrive arrival).initStateMachine.stateHandlers = []
      cases arrival with
      | event initReadings callReadings event fromConnection =>
        show (call.object.signalEvent initReadings callReadings _).initStateMachine.stateHandlers = []
        rw [initStateMachine_signalEvent, StateMachineBase.signalEvent, none]
        rfl
      | workerReply index event =>
        show call.object.initStateMachine.stateHandlers.modify index _ = []
        rw [none, List.modify_nil]
      | workerMessage event =>
        show call.object.initStateMachine.stateHandlers.map _ = []
        rw [none, List.map_nil]
  | connected success =>
    rcases step_connected stepped with ⟨-, rfl⟩ | ⟨-, rfl⟩
    · exact noneYet
    · cases success with
      | true => exact fun control => nomatch control
      | false => exact fun control => nomatch control
  | checkStop signalled reading =>
    rcases step_checkStop stepped with ⟨-, rfl⟩ | ⟨-, rfl⟩
    · exact noneYet
    · cases signalled with
      | true => exact fun control => nomatch control
      | false => exact fun control => nomatch control
  | checkTime time loopTime readings reset =>
    rcases step_checkTime stepped with
      ⟨-, rfl⟩ | ⟨timeOut, -, ⟨-, rfl⟩ | ⟨-, -, rfl⟩ | ⟨-, -, rfl⟩⟩
    · exact noneYet
    · unfold polled NoneYet
      dsimp only
      split_ifs
      · exact fun control => nomatch control
      · exact fun control => nomatch control
      · exact fun control => nomatch control
    · exact fun control => nomatch control
    · exact fun control => nomatch control
  | received error =>
    rcases step_received stepped with ⟨-, rfl⟩ | ⟨timeOut, -, rfl⟩
    · exact noneYet
    · unfold NoneYet
      dsimp only
      split_ifs
      · exact fun control => nomatch control
      · exact fun control => nomatch control

section endless

variable {processStart : Long} {call : Nat → InitCall} {action : Nat → InitAction}
  {time : Nat → Nat}

/-- A call that has returned keeps its result. -/
theorem Endless.result_later (endless : Endless processStart call action time) {first last : Nat}
    (after : first ≤ last) (returned : (call first).result.isSome = true) :
    (call last).result = (call first).result := by
  induction last, after using Nat.le_induction with
  | base => rfl
  | succ last after inductionHypothesis =>
    rw [← inductionHypothesis] at returned ⊢
    rw [step_returned returned (endless.steps last)]

/-- A call in which the handler of the session enters an error state returns it, when nothing
disturbs the rest of the `Poll`. -/
theorem Endless.returns_failing (endless : Endless processStart call action time)
    (awaited : (call 0).Awaited) (noneYet : (call 0).NoneYet) {entry : Nat}
    (enters : Enters (call entry) (call (entry + 1)))
    (undisturbed : ∀ step, entry < step → (call step).result = none →
      (call step).Undisturbed (action step)) :
    ∃ step, (call step).result = some (false, .fatal) := by
  have each : ∀ step, (call step).Awaited ∧ (call step).NoneYet := by
    intro step
    induction step with
    | zero => exact ⟨awaited, noneYet⟩
    | succ step inductionHypothesis =>
      have stepped := endless.steps step
      exact ⟨inductionHypothesis.1.step stepped, inductionHypothesis.2.step stepped⟩
  by_contra notFatal
  push Not at notFatal
  have failing : ∀ step, entry < step → (call step).Failing := by
    intro step after
    induction step, after using Nat.le_induction with
    | base => exact enters.failing (endless.steps entry) (each entry).1.logging (each entry).2
    | succ step after inductionHypothesis =>
      have quiet := undisturbed step after inductionHypothesis.waits
      exact (inductionHypothesis.step (endless.steps step) (each step).1.logging
        quiet).resolve_right (notFatal (step + 1))
  have never : ∀ step, (call step).result = none := by
    intro step
    by_contra returned
    have later := endless.result_later (Nat.le_add_right step (entry + 1))
      (Option.isSome_iff_ne_none.mpr returned)
    rw [(failing (step + (entry + 1)) (by omega)).waits] at later
    exact returned later.symm
  obtain ⟨step, after, notDecided⟩ := not_decided_for_ever endless never
    (fun step => (each step).1.timers (never step)) (entry + 1)
  exact notDecided (Or.inr (Or.inl (failing step after).last))

end endless

theorem Awaited.of_sameLogin {control : InitControl} {object next : OnSipXmpp}
    (awaited : (InitCall.mk control object).Awaited) (login : SameLogin object next)
    (timer : next.tmrConnectLoop = object.tmrConnectLoop) :
    (InitCall.mk control next).Awaited := by
  obtain ⟨logging, view, timers⟩ := awaited
  obtain ⟨machine, last⟩ := login
  have same : next.loginView = object.loginView := by
    unfold OnSipXmpp.loginView JnTapi.loginView
    rw [machine, last]
  have settled : (InitCall.mk control next).settled = (InitCall.mk control object).settled := by
    unfold InitCall.settled
    rw [timer]
  refine ⟨?_, ?_, fun waits => ?_⟩
  · show LoggingIn next.initStateMachine
    rw [machine]
    exact logging
  · show next.loginView.last.Decided ∨ next.loginView.Waits
    rw [same]
    exact view
  · obtain ⟨poll, loop⟩ := timers waits
    refine ⟨?_, ?_⟩
    · unfold timeOut?
      rw [settled]
      exact poll
    · unfold loopTimer
      rw [settled]
      exact loop

theorem loginQueues_step {call next : InitCall} {action : InitAction}
    (queues : call.object.LoginQueues) (stepped : call.step action = some next) :
    next.object.LoginQueues := by
  cases action with
  | call action =>
    rcases step_call stepped with rfl | ⟨object, called, ⟨-, rfl⟩ | ⟨timeOut, reset, -, -, rfl⟩⟩
    · exact queues
    · exact queues.step called
    · exact (queues.step called).of_same rfl rfl rfl rfl
  | arrive arrival =>
    rcases step_arrive stepped with ⟨-, rfl⟩ | ⟨-, rfl⟩
    · exact queues
    · exact queues.arrive arrival
  | connected success =>
    rcases step_connected stepped with ⟨-, rfl⟩ | ⟨-, rfl⟩ <;> exact queues
  | checkStop signalled reading =>
    rcases step_checkStop stepped with ⟨-, rfl⟩ | ⟨-, rfl⟩ <;> exact queues
  | checkTime time loopTime readings reset =>
    rcases step_checkTime stepped with
      ⟨-, rfl⟩ | ⟨timeOut, -, ⟨-, rfl⟩ | ⟨-, -, rfl⟩ | ⟨-, -, rfl⟩⟩
    · exact queues
    · unfold polled
      dsimp only
      split_ifs
      · exact queues
      · exact queues.of_same rfl rfl rfl rfl
      · exact queues
    · exact queues.pollInit readings
    · exact queues
  | received error =>
    rcases step_received stepped with ⟨-, rfl⟩ | ⟨timeOut, -, rfl⟩ <;> exact queues

end InitCall

/-! ### The thread -/

namespace ConnectionThread

open InitCall

/-- The thread shuts down the session and ends. -/
def Ends (thread : ConnectionThread) : Prop :=
  match thread.control with
  | .polling (.disconnect _) _ | .disconnecting _ | .cleaning true | .exited => True
  | _ => False

/-- No request to shut down is queued before the thread ends, and `InitOnSipTapi` waits for the
login. -/
structure Serves (thread : ConnectionThread) : Prop where
  queues : thread.object.LoginQueues
  noShutdown : thread.Ends ∨ thread.object.initStateMachine.events = []
  awaited : ∀ first control, thread.control = .initializing first control →
    (InitCall.mk control thread.object).Awaited ∧ (InitCall.mk control thread.object).NoneYet

theorem serves_begin {object : OnSipXmpp} (queues : object.LoginQueues)
    (none : object.initStateMachine.events = []) (reading : Reading) (loginInfo : LoginInfo)
    {thread : ConnectionThread} {first : Bool}
    (begins : thread.control = .initializing first (begin reading loginInfo object).control)
    (same : thread.object = (begin reading loginInfo object).object) : thread.Serves := by
  have cleared : object.clearEvents.LoginQueues := queues.of_same rfl rfl rfl rfl
  have noShutdown : ∀ event ∈ object.initStateMachine.events, event.data ≠ .shutdownRequest := by
    rw [none]
    exact fun event absent => absurd absent List.not_mem_nil
  refine ⟨same ▸ cleared.start reading loginInfo, Or.inr (same ▸ none), fun other control stands => ?_⟩
  rw [begins] at stands
  obtain ⟨-, rfl⟩ := ThreadControl.initializing.inj stands
  rw [same]
  exact ⟨awaited_begin queues noShutdown reading loginInfo, fun _ => rfl⟩

/-- Outside of `InitOnSipTapi` only the queues matter. -/
theorem Serves.of_outside {thread : ConnectionThread} (queues : thread.object.LoginQueues)
    (noShutdown : thread.Ends ∨ thread.object.initStateMachine.events = [])
    (outside : ∀ first control, thread.control ≠ .initializing first control) : thread.Serves :=
  ⟨queues, noShutdown, fun first control stands => absurd stands (outside first control)⟩

theorem events_arrive (arrival : Arrival) (object : OnSipXmpp) :
    (object.arrive arrival).initStateMachine.events = object.initStateMachine.events := by
  cases arrival with
  | event initReadings callReadings event fromConnection =>
    show (object.signalEvent initReadings callReadings _).initStateMachine.events = _
    rw [OnSipXmpp.initStateMachine_signalEvent]
    rfl
  | workerReply index event => rfl
  | workerMessage event => rfl

theorem events_pollInit {object : OnSipXmpp} (none : object.initStateMachine.events = [])
    (readings : StateMachineBase.PollReadings) :
    (object.pollInit readings).initStateMachine.events = [] := by
  have left := (getEvents_of_nil (object.initStateMachine.events_getRequests.trans none)).2
  show (object.initStateMachine.pollStateHandlers initVirtuals readings object.xmpp).1.events = []
  rw [StateMachineBase.pollStateHandlers_eq]
  exact left

/-- Every step keeps it so. -/
theorem Serves.step {thread next : ConnectionThread} {action : ThreadAction}
    (serves : thread.Serves) (stepped : thread.step action = some next) : next.Serves := by
  have queues := serves.queues
  -- What the thread does not do when it ends, it does without a request to shut down.
  have goesOn : ¬ thread.Ends → thread.object.initStateMachine.events = [] :=
    serves.noShutdown.resolve_left
  have ends : ∀ {control : ThreadControl}, thread.control = control →
      ¬ Ends { thread with control := control } → ¬ thread.Ends := by
    rintro control rfl notEnds
    exact notEnds
  cases transition_of_step stepped with
  | @init first control action call stands inside =>
    obtain ⟨awaited, noneYet⟩ := serves.awaited first control stands
    have nextAwaited := awaited.step inside
    have nextQueues := InitCall.loginQueues_step queues inside
    have none := nextAwaited.logging.events
    unfold initialized
    split
    case h_1 => exact .of_outside nextQueues (Or.inr none) (by cases first <;> simp)
    case h_2 =>
      dsimp only
      split_ifs
      · exact .of_outside (nextQueues.of_same rfl rfl rfl rfl) (Or.inl trivial) (by simp [cleanup])
      · exact .of_outside nextQueues (Or.inr none) (by simp)
    case h_3 =>
      refine ⟨nextQueues, Or.inr none, fun other inner same => ?_⟩
      obtain ⟨-, rfl⟩ := ThreadControl.initializing.inj same
      exact ⟨nextAwaited, noneYet.step inside⟩
  | @otherCall action object alive other called =>
    obtain ⟨login, timer⟩ := OnSipXmpp.sameLogin_call called
    refine ⟨queues.step called, serves.noShutdown.imp_right fun none => ?_,
      fun first control stands => ?_⟩
    · show object.initStateMachine.events = []
      rw [login.1]
      exact none
    · obtain ⟨awaited, noneYet⟩ := serves.awaited first control stands
      refine ⟨awaited.of_sameLogin login timer, fun connecting => ?_⟩
      show object.initStateMachine.stateHandlers = []
      rw [login.1]
      exact noneYet connecting
  | @pollCall caller timeOut reset action object stands called =>
    obtain ⟨login, -⟩ := OnSipXmpp.sameLogin_call called
    have none : ¬ thread.Ends → object.initStateMachine.events = [] := by
      rw [login.1]
      exact goesOn
    unfold afterCall
    split
    · refine .of_outside ((queues.step called).of_same rfl rfl rfl rfl) ?_ (by simp)
      cases caller with
      | connectionThread => exact Or.inr (none (ends stands id))
      | disconnect tmout => exact Or.inl trivial
    · refine .of_outside (queues.step called) ?_ (by simp [stands])
      exact serves.noShutdown.imp_right fun same => by
        rw [login.1]
        exact same
  | @arrive arrival stands =>
    refine .of_outside (queues.arrive arrival) ?_ fun first control same => ?_
    · exact serves.noShutdown.imp_right fun none => (events_arrive arrival thread.object).trans none
    · rcases stands with ⟨caller, timeOut, inside⟩ | ⟨last, inside⟩
      · cases same.symm.trans inside
      · cases same.symm.trans inside
  | @stop reading stands =>
    unfold disconnect
    split_ifs
    · exact .of_outside queues.asyncShutdown (Or.inl trivial) (by simp [ConnectionThread.poll])
    · exact .of_outside (queues.of_same rfl rfl rfl rfl) (Or.inl trivial) (by simp [cleanup])
  | @tryConnect reading action stands =>
    refine serves_begin queues (goesOn ?_) reading thread.loginInfo rfl rfl
    rcases stands with ⟨control, -⟩ | ⟨control, -⟩
    · exact ends control id
    · exact ends control id
  | poll stands =>
    refine .of_outside queues (Or.inr (goesOn ?_)) (by simp [ConnectionThread.poll])
    rcases stands with ⟨control, -⟩ | ⟨control, -⟩
    · exact ends control id
    · exact ends control id
  | loop stands =>
    refine .of_outside queues (Or.inr (goesOn ?_)) (by simp)
    rcases stands with ⟨control, -⟩ | ⟨control, -⟩
    · exact ends control id
    · exact ends control id
  | @polled caller timeOut time loopTime readings reset stands =>
    cases caller with
    | connectionThread =>
      have none := goesOn (ends stands id)
      unfold polled
      dsimp only
      split_ifs
      · exact .of_outside queues (Or.inr none) (by simp)
      · exact .of_outside (queues.of_same rfl rfl rfl rfl) (Or.inr none) (by simp)
    | disconnect tmout => exact .of_outside queues (Or.inl trivial) (by simp [polled])
  | @pollInit caller timeOut time loopTime readings reset stands =>
    refine .of_outside (queues.pollInit readings) ?_ (by simp)
    cases caller with
    | connectionThread => exact Or.inr (events_pollInit (goesOn (ends stands id)) readings)
    | disconnect tmout => exact Or.inl trivial
  | @receive caller timeOut time loopTime readings reset stands =>
    refine .of_outside queues ?_ (by simp)
    cases caller with
    | connectionThread => exact Or.inr (goesOn (ends stands id))
    | disconnect tmout => exact Or.inl trivial
  | @received caller timeOut stands =>
    refine .of_outside queues ?_ (by simp)
    cases caller with
    | connectionThread => exact Or.inr (goesOn (ends stands id))
    | disconnect tmout => exact Or.inl trivial
  | @pollFailed caller timeOut error stands fails =>
    cases caller with
    | connectionThread =>
      exact .of_outside queues (Or.inr (goesOn (ends stands id))) (by simp [pollFailed])
    | disconnect tmout =>
      exact .of_outside (queues.of_same rfl rfl rfl rfl) (Or.inl trivial)
        (by simp [pollFailed, cleanup])
  | processEvent stands => exact .of_outside queues (Or.inr (goesOn (ends stands id))) (by simp)
  | updateState stands =>
    have none := goesOn (ends stands id)
    unfold updateState
    dsimp only
    split_ifs
    · exact .of_outside queues (Or.inr none) (by simp)
    · exact .of_outside (queues.of_same rfl rfl rfl rfl) (Or.inr none) (by simp [cleanup])
    · exact .of_outside queues (Or.inr none) (by simp)
  | cleanup stands =>
    exact .of_outside (queues.of_same rfl rfl rfl rfl) (Or.inl trivial) (by simp [cleanup])
  | pollShutdown stands =>
    exact .of_outside queues (Or.inl trivial) (by simp [ConnectionThread.poll])
  | @disconnected last stands =>
    cases last with
    | true => exact .of_outside queues (Or.inl trivial) (by simp)
    | false => exact .of_outside queues (Or.inr (goesOn (ends stands id))) (by simp)

theorem serves_of_run {reading : Reading} {loginInfo : LoginInfo} {actions : List ThreadAction}
    {thread : ConnectionThread}
    (reached : run ConnectionThread.step actions (ConnectionThread.new reading loginInfo) =
      some thread) : thread.Serves := by
  have fresh : run OnSipXmpp.step [] (OnSipXmpp.new reading) = some (OnSipXmpp.new reading) := rfl
  exact run_invariant (fun _ _ _ stepped serves => Serves.step serves stepped) reached
    (serves_begin (OnSipXmpp.loginQueues_of_run fresh) rfl reading loginInfo rfl rfl)

/-- In every call of `InitOnSipTapi`, if the handler of the session enters an error state, then the
call returns that the login has failed for good, as long as until then nothing fails and neither an
event nor a poll takes a handler of the login to a state that is not an error. -/
theorem returns_fatal {reading : Reading} {loginInfo : LoginInfo} {actions : List ThreadAction}
    {thread : ConnectionThread} {first : Bool} {control : InitControl} {processStart : Long}
    {call : Nat → InitCall} {action : Nat → InitAction} {time : Nat → Nat} {entry : Nat}
    (reached : run ConnectionThread.step actions (ConnectionThread.new reading loginInfo) =
      some thread)
    (initializing : thread.control = .initializing first control)
    (begins : call 0 = ⟨control, thread.object⟩)
    (endless : Endless processStart call action time)
    (enters : Enters (call entry) (call (entry + 1)))
    (undisturbed : ∀ step, entry < step → (call step).result = none →
      (call step).Undisturbed (action step)) :
    ∃ step, (call step).result = some (false, .fatal) := by
  obtain ⟨awaited, noneYet⟩ := (serves_of_run reached).awaited first control initializing
  rw [← begins] at awaited noneYet
  exact endless.returns_failing awaited noneYet enters undisturbed

end ConnectionThread

/-! ### Concrete calls -/

namespace Example

open InitCall

/-- The thread connects and polls the machines, and the new handler is in the machine. -/
def connectSteps : List (Nat × InitAction) :=
  [(0, .connected true), (10, .checkStop false (reading 10)),
    (300, .checkTime (reading 300) (reading 300) (.still (reading 300)) (reading 300)),
    (300, .call .testRequests), (300, .call .testEvents),
    (300, .call (.pollHandlers (readings 300)))]

/-- The server refuses the authorization. -/
def refusedSteps : List (Nat × InitAction) :=
  connectSteps ++
    [(310, .arrive (arrivalAt 310 (.connectFactory true) (fromConnection_connectFactory true))),
      (320, .arrive (arrivalAt 320 ⟨[], true, 0, .iqResult⟩ rfl)), (330, .received .connNoError),
      (1010, .checkTime (reading 1010) (reading 1010) (.still (reading 1010)) (reading 1010))]

/-- The call of `InitOnSipTapi` that the thread begins with -/
def firstCall : InitCall := begin (reading 0) login (OnSipXmpp.new (reading 0))

theorem refused_endless : Endless 0 (callOf firstCall refusedSteps) (actionOf refusedSteps)
    (timeOf refusedSteps 1010) := by
  refine endless_callOf rfl ?_ (by decide) ?_ (by decide)
  · intro step early
    change step < 10 at early
    interval_cases step <;> rfl
  · intro step early taken takes
    change step < 10 at early
    have checks : ∀ {only : Reading}, (taken = only ∨ taken = only ∨ ∃ _ : Nat, taken = only) →
        taken = only := by
      rintro only (same | same | ⟨_, same⟩) <;> exact same
    interval_cases step
    case «1» => exact takes
    case «2» => exact checks takes
    case «5» => exact reset_of_takes rfl takes
    case «9» => exact checks takes
    all_goals exact takes.elim

end Example

namespace ConnectionThread

open InitCall

theorem returns_fatal_refused :
    Enters (Example.callOf Example.firstCall Example.refusedSteps 7)
        (Example.callOf Example.firstCall Example.refusedSteps 8) ∧
      ∃ step, (Example.callOf Example.firstCall Example.refusedSteps step).result =
        some (false, .fatal) := by
  have enters : Enters (Example.callOf Example.firstCall Example.refusedSteps 7)
      (Example.callOf Example.firstCall Example.refusedSteps 8) := by
    refine ⟨?_, _, rfl, rfl⟩
    rintro ⟨handler, last, fatal⟩
    cases last
    cases fatal
  have reached : run ConnectionThread.step [] (ConnectionThread.new (Example.reading 0)
    Example.login) = some _ := rfl
  refine ⟨enters, returns_fatal reached rfl rfl Example.refused_endless enters ?_⟩
  intro step after waits
  by_cases early : step < 10
  · interval_cases step
    · exact ⟨fun failed => failed rfl, fun _ absent => nomatch absent⟩
    · exact ⟨id, fun _ absent => nomatch absent⟩
  · obtain ⟨later, rfl⟩ := Nat.exists_eq_add_of_le (not_lt.mp early)
    have same : Example.callOf Example.firstCall Example.refusedSteps (10 + later) = _ :=
      (Example.callOf_later rfl later).1
    rw [same] at waits
    cases waits

/-- The server refuses the login and closes the connection, and the next `recv` of the same `Poll`
finds it closed: the login is tried again and again. -/
theorem returns_fatal_disconnected :
    ¬ ∀ (reading : Reading) (loginInfo : LoginInfo) (actions : List ThreadAction)
      (thread : ConnectionThread) (first : Bool) (control : InitControl)
      (before rest : List InitAction) (action : InitAction) (call next last : InitCall)
      (outcome : Bool × InitStatesType),
      run ConnectionThread.step actions (ConnectionThread.new reading loginInfo) = some thread →
      thread.control = .initializing first control →
      run InitCall.step before ⟨control, thread.object⟩ = some call →
      call.step action = some next → Enters call next →
      run InitCall.step rest next = some last → last.result = some outcome →
      (∀ signalled reading, .checkStop signalled reading ∈ before ++ action :: rest →
        signalled = false) →
      outcome = (false, .fatal) := by
  intro claim
  have reached : run ConnectionThread.step [] (ConnectionThread.new (Example.reading 0)
    Example.login) = some _ := rfl
  have connected : run InitCall.step (Example.connectSteps.map Prod.snd) Example.firstCall =
    some _ := rfl
  have outcome := claim _ _ _ _ _ _ (Example.connectSteps.map Prod.snd)
    [.received .connNoError, .checkTime (Example.reading 320) (Example.reading 320)
      (.still (Example.reading 320)) (Example.reading 320), .received .connNotConnected]
    (.arrive (Example.arrivalAt 310 ⟨[], false, 0, .onDisconnect⟩ rfl)) _ _ _ _ reached rfl
    connected rfl ?_ rfl rfl ?_
  · cases outcome
  · refine ⟨?_, _, rfl, rfl⟩
    rintro ⟨handler, last, fatal⟩
    cases last
    cases fatal
  · intro signalled reading member
    simp [Example.connectSteps] at member
    exact member.1

end ConnectionThread

end JnTapi
