/-
This file proves when a call of `InitOnSipTapi` depends on nothing but its own
session.

Two calls are related when each has one driver, the drivers differ in their context
ids at most, and the last notified states are the same as far as they decide
anything. What the calls find outside keeps them related, and so does all that
happens to the telephone calls meanwhile. A call that starts with a decided state,
with a driver of an earlier session or with a pending request to shut down can be
told from a call of a new object.
-/

import JnTapi.Init.Session
import JnTapi.OnSipTapi
import JnTapi.Call.Coherent

namespace JnTapi

open Library

/-! ### Related sessions -/

/-- The two states are the same, or decide nothing. -/
def SameVerdict (first second : InitStates) : Prop :=
  first = second ∨ (¬ first.Decided ∧ ¬ second.Decided)

/-- Each machine has one driver, and the two differ in their context ids at most. -/
inductive Paired (first second : StateMachineBase InitStateHandler XmppEvent) : Prop
  | lists {handler : InitStateHandler} (contextId : Long) (left : Lists first handler)
      (right : Lists second (handler.withContext contextId))
  | waits {handler : InitStateHandler} (contextId : Long) (left : Waits first handler)
      (right : Waits second (handler.withContext contextId))

/-- The same change of the handlers of both machines keeps them paired, if it leaves the states and
does not look at the context ids. -/
theorem Paired.mapHandlers {first second : StateMachineBase InitStateHandler XmppEvent}
    (paired : Paired first second) (change : InitStateHandler → InitStateHandler)
    (changes : List InitStateHandler → List InitStateHandler)
    (state : ∀ handler, (change handler).state = handler.state)
    (context : ∀ handler contextId,
      change (handler.withContext contextId) = (change handler).withContext contextId)
    (single : ∀ handler, changes [handler] = [change handler]) (empty : changes [] = []) :
    Paired { first with stateHandlers := changes first.stateHandlers }
      { second with stateHandlers := changes second.stateHandlers } := by
  rcases paired with @⟨handler, contextId, left, right⟩ | @⟨handler, contextId, left, right⟩
  · rw [left.stateHandlers, right.stateHandlers, single, single, context]
    refine .lists contextId ⟨rfl, left.handlerRequests, left.events, ?_⟩
      ⟨rfl, right.handlerRequests, right.events, ?_⟩
    · exact left.going.of_state (state handler)
    · exact left.going.of_state (state handler)
  · rw [left.stateHandlers, right.stateHandlers, empty]
    exact .waits contextId
      ⟨rfl, left.handlerRequests, left.requestChange, left.events, left.going⟩
      ⟨rfl, right.handlerRequests, right.requestChange, right.events, right.going⟩

namespace OnSipXmpp

/-- The login goes on in the same way in both objects. -/
structure SameSession (first second : OnSipXmpp) : Prop where
  machine : Paired first.initStateMachine second.initStateMachine
  verdict : SameVerdict first.xmpp.lastInitState second.xmpp.lastInitState

/-- The object is another one with the same login. -/
def SameLogin (first second : OnSipXmpp) : Prop :=
  second.initStateMachine = first.initStateMachine ∧
    second.xmpp.lastInitState = first.xmpp.lastInitState

theorem SameSession.left {first second next : OnSipXmpp} (same : SameSession first second)
    (login : SameLogin first next) : SameSession next second :=
  ⟨login.1 ▸ same.machine, login.2 ▸ same.verdict⟩

theorem SameSession.right {first second next : OnSipXmpp} (same : SameSession first second)
    (login : SameLogin second next) : SameSession first next :=
  ⟨login.1 ▸ same.machine, login.2 ▸ same.verdict⟩

/-! ### The calls do not matter -/

/-- Every call of the call machine leaves the last notified state of the login. -/
theorem callVirtuals_lastInitState :
    callVirtuals.Changes fun before after => after.lastInitState = before.lastInitState :=
  callVirtuals_changes (fun left right => right.trans left) (fun quiet => quiet.lastInitState)
    fun _ _ => rfl

theorem sameLogin_call {object next : OnSipXmpp} {action : CallAction}
    (stepped : object.step (.call action) = some next) :
    object.SameLogin next ∧ next.tmrConnectLoop = object.tmrConnectLoop := by
  obtain ⟨-, calls, called, rfl⟩ := step_call.mp stepped
  have same := CallSystem.changes_step callVirtuals_lastInitState
    (fun quiet => quiet.lastInitState) called
  exact ⟨⟨rfl, same⟩, rfl⟩

theorem sameLogin_signalCalls (readings : Readings) (event : XmppEvent) (object : OnSipXmpp) :
    object.SameLogin (object.signalCalls readings event) := by
  have same := callVirtuals_lastInitState.signalEvent readings event false
    object.calls.stateHandlers object.xmpp
  refine ⟨initStateMachine_signalCalls readings event object, ?_⟩
  unfold signalCalls
  split
  case h_1 next signalled =>
    rw [signalled] at same
    exact same
  case h_2 handlers xmpp signalled =>
    rw [signalled] at same
    exact same

/-! ### What the connection delivers -/

theorem loginContext_lists {object : OnSipXmpp} {handler : InitStateHandler}
    (lists : Lists object.initStateMachine handler) :
    object.loginContext = handler.contextId := by
  unfold loginContext drivers
  rw [lists.stateHandlers, lists.handlerRequests]
  rfl

/-- An event that the only handler of the login machine is offered -/
theorem signalEvent_lists {object : OnSipXmpp} {handler : InitStateHandler}
    (lists : Lists object.initStateMachine handler) (initReadings callReadings : Readings)
    {event : XmppEvent} (fromConnection : event.data.fromConnection = true) :
    Lists (object.signalEvent initReadings callReadings event).initStateMachine
        (handler.offered initReadings.offer event object.xmpp).2.1 ∧
      (object.signalEvent initReadings callReadings event).xmpp.lastInitState =
        (handler.offered initReadings.offer event object.xmpp).2.2.lastInitState := by
  obtain ⟨-, listed, left⟩ := lists.signalEvent initReadings fromConnection object.xmpp
  refine ⟨?_, ?_⟩
  · rw [initStateMachine_signalEvent]
    exact listed
  · rw [← left]
    rcases object.signalEvent_cases initReadings callReadings event with
      ⟨-, result⟩ | ⟨-, result⟩
    · rw [result]
      rfl
    · rw [result]
      exact (sameLogin_signalCalls callReadings event _).2

/-- While the driver waits, no event reaches it. -/
theorem signalEvent_waits {object : OnSipXmpp} {handler : InitStateHandler}
    (waits : Waits object.initStateMachine handler) (initReadings callReadings : Readings)
    (event : XmppEvent) :
    Waits (object.signalEvent initReadings callReadings event).initStateMachine handler ∧
      (object.signalEvent initReadings callReadings event).xmpp.lastInitState =
        object.xmpp.lastInitState := by
  obtain ⟨refused, stillWaits, left⟩ := waits.signalEvent initReadings event object.xmpp
  refine ⟨?_, ?_⟩
  · rw [initStateMachine_signalEvent]
    exact stillWaits
  · rcases object.signalEvent_cases initReadings callReadings event with
      ⟨accepted, -⟩ | ⟨-, result⟩
    · rw [refused] at accepted
      cases accepted
    · rw [result, (sameLogin_signalCalls callReadings event _).2]
      exact congrArg Xmpp.lastInitState left

/-- A poll polls the driver, whether the driver waits or is in the machine. -/
theorem pollInit_driver {object : OnSipXmpp} {handler : InitStateHandler}
    (driver : Lists object.initStateMachine handler ∨ Waits object.initStateMachine handler)
    (readings : StateMachineBase.PollReadings) :
    Lists (object.pollInit readings).initStateMachine
        (handler.pollStateHandler (readings.last.poll 0) object.xmpp).2.1 ∧
      (object.pollInit readings).xmpp.lastInitState =
        (handler.polled (readings.last.poll 0) object.xmpp).2.lastInitState := by
  rw [← InitStateHandler.polled_fst]
  rcases driver with lists | waits
  · obtain ⟨listed, left⟩ := lists.pollMachine readings object.xmpp
    exact ⟨listed, congrArg Xmpp.lastInitState left⟩
  · obtain ⟨listed, left⟩ := waits.pollMachine readings object.xmpp
    exact ⟨listed, congrArg Xmpp.lastInitState left⟩

/-- The same poll of both objects -/
theorem SameSession.pollInit {first second : OnSipXmpp} (same : SameSession first second)
    (readings : StateMachineBase.PollReadings) :
    SameSession (first.pollInit readings) (second.pollInit readings) := by
  have drivers : ∃ handler contextId,
      (Lists first.initStateMachine handler ∨ Waits first.initStateMachine handler) ∧
        (Lists second.initStateMachine (handler.withContext contextId) ∨
          Waits second.initStateMachine (handler.withContext contextId)) := by
    rcases same.machine with ⟨contextId, left, right⟩ | ⟨contextId, left, right⟩
    · exact ⟨_, contextId, Or.inl left, Or.inl right⟩
    · exact ⟨_, contextId, Or.inr left, Or.inr right⟩
  obtain ⟨handler, contextId, left, right⟩ := drivers
  obtain ⟨listed, lastState⟩ := pollInit_driver left readings
  obtain ⟨otherListed, otherState⟩ := pollInit_driver right readings
  obtain ⟨sameFlag, sameNext⟩ := handler.pollStateHandler_withContext contextId
    (readings.last.poll 0) first.xmpp second.xmpp
  rw [sameNext] at otherListed
  refine ⟨.lists contextId listed otherListed, ?_⟩
  rw [lastState, otherState, InitStateHandler.lastInitState_polled,
    InitStateHandler.lastInitState_polled, sameFlag, sameNext,
    InitStateHandler.state_withContext]
  split_ifs
  · exact Or.inl rfl
  · exact same.verdict

/-- A context that is given relative to the last request answers it in both objects or in none. -/
theorem reply_iff (own other context : Long) :
    other + context = other ↔ own + context = own := by
  rw [BitVec.add_right_eq_self, BitVec.add_right_eq_self]

/-- The same event arrives in both objects. -/
theorem SameSession.signalEvent {first second : OnSipXmpp} (same : SameSession first second)
    (initReadings callReadings : Readings) {event : XmppEvent}
    (fromConnection : event.data.fromConnection = true) :
    SameSession
      (first.signalEvent initReadings callReadings
        { event with context := first.loginContext + event.context })
      (second.signalEvent initReadings callReadings
        { event with context := second.loginContext + event.context }) := by
  rcases same.machine with @⟨handler, contextId, left, right⟩ | @⟨handler, contextId, left, right⟩
  · have here : ({ event with
        context := first.loginContext + event.context } : XmppEvent).data.fromConnection = true :=
      fromConnection
    have there : ({ event with
        context := second.loginContext + event.context } : XmppEvent).data.fromConnection = true :=
      fromConnection
    obtain ⟨listed, lastState⟩ := signalEvent_lists left initReadings callReadings here
    obtain ⟨otherListed, otherState⟩ := signalEvent_lists right initReadings callReadings there
    have reply : second.loginContext + event.context = contextId ↔
        first.loginContext + event.context = handler.contextId := by
      rw [loginContext_lists left, loginContext_lists right]
      exact reply_iff handler.contextId contextId event.context
    obtain ⟨sameFlag, nextContext, sameNext⟩ := handler.isYourEvent_withContext contextId
      initReadings.offer { event with context := first.loginContext + event.context }
      (second.loginContext + event.context) first.xmpp second.xmpp here
      left.going.notShuttingDown reply
    rw [(InitStateHandler.offered_fst _ _ _ _).2] at listed otherListed
    rw [sameNext] at otherListed
    refine ⟨.lists nextContext listed otherListed, ?_⟩
    rw [lastState, otherState, InitStateHandler.lastInitState_offered,
      InitStateHandler.lastInitState_offered, sameFlag, sameNext,
      InitStateHandler.state_withContext]
    split_ifs
    · exact Or.inl rfl
    · exact same.verdict
  · obtain ⟨stillWaits, lastState⟩ := signalEvent_waits left initReadings callReadings
      { event with context := first.loginContext + event.context }
    obtain ⟨otherWaits, otherState⟩ := signalEvent_waits right initReadings callReadings
      { event with context := second.loginContext + event.context }
    refine ⟨.waits contextId stillWaits otherWaits, ?_⟩
    rw [lastState, otherState]
    exact same.verdict

/-- The same reply to a renewal arrives in both objects. -/
theorem SameSession.workerReply {first second : OnSipXmpp} (same : SameSession first second)
    (index : Nat) (event : Option XmppEvent) :
    SameSession (first.workerReply index event) (second.workerReply index event) := by
  refine ⟨?_, same.verdict⟩
  cases index with
  | zero =>
    exact same.machine.mapHandlers (·.handleIqID event) (·.modify 0 (·.handleIqID event))
      (fun _ => rfl) (fun _ _ => rfl) (fun _ => rfl) rfl
  | succ index =>
    refine same.machine.mapHandlers id (·.modify (index + 1) (·.handleIqID event)) (fun _ => rfl)
      (fun _ _ => rfl) (fun handler => ?_) rfl
    rw [List.modify_succ_cons, List.modify_nil]
    rfl

/-- The same message arrives in both objects. -/
theorem SameSession.workerMessage {first second : OnSipXmpp} (same : SameSession first second)
    (event : XmppEvent) : SameSession (first.workerMessage event) (second.workerMessage event) :=
  ⟨same.machine.mapHandlers (·.handleMessage event) (List.map (·.handleMessage event))
    (fun _ => rfl) (fun _ _ => rfl) (fun _ => rfl) rfl, same.verdict⟩

/-- The same thing arrives in both objects. -/
theorem SameSession.arrive {first second : OnSipXmpp} (same : SameSession first second)
    (arrival : Arrival) : SameSession (first.arrive arrival) (second.arrive arrival) := by
  cases arrival with
  | event initReadings callReadings event fromConnection =>
    exact same.signalEvent initReadings callReadings fromConnection
  | workerReply index event => exact same.workerReply index event
  | workerMessage event => exact same.workerMessage event

end OnSipXmpp

/-! ### Two calls -/

namespace InitCall

open OnSipXmpp

/-- Where the call stands for what it finds outside, and the timer that it checks. The poll of the
calls finds nothing outside and leads on to `recv`. -/
def settled (call : InitCall) : InitControl × TimeOut :=
  match call.control with
  | .pollingCalls timeOut reset => (.receiving timeOut, call.object.tmrConnectLoop.reset reset)
  | control => (control, call.object.tmrConnectLoop)

/-- The two calls go on in the same way. -/
structure Alike (first second : InitCall) : Prop where
  session : SameSession first.object second.object
  settled : first.settled = second.settled

theorem Alike.left {first second next : InitCall} (alike : Alike first second)
    (login : SameLogin first.object next.object) (same : next.settled = first.settled) :
    Alike next second :=
  ⟨alike.session.left login, same.trans alike.settled⟩

theorem Alike.right {first second next : InitCall} (alike : Alike first second)
    (login : SameLogin second.object next.object) (same : next.settled = second.settled) :
    Alike first next :=
  ⟨alike.session.right login, alike.settled.trans same.symm⟩

/-- A step of the calls changes nothing for the outside. -/
theorem settled_call {call next : InitCall} {action : CallAction}
    (stepped : call.step (.call action) = some next) :
    SameLogin call.object next.object ∧ next.settled = call.settled := by
  rcases step_call stepped with rfl | ⟨object, called, ⟨-, rfl⟩ | ⟨timeOut, reset, control, -, rfl⟩⟩
  · exact ⟨⟨rfl, rfl⟩, rfl⟩
  · obtain ⟨login, timer⟩ := sameLogin_call called
    refine ⟨login, ?_⟩
    unfold settled
    rw [timer]
  · obtain ⟨login, timer⟩ := sameLogin_call called
    refine ⟨login, ?_⟩
    unfold settled resetConnectLoop
    rw [control, timer]

/-- What the call finds outside, it finds outside of the poll of the calls. -/
theorem settled_of_input {call next : InitCall} {action : InitAction}
    (isInput : action.isInput = true) (stepped : call.step action = some next) :
    call.settled = (call.control, call.object.tmrConnectLoop) := by
  unfold settled
  cases control : call.control with
  | pollingCalls timeOut reset =>
    cases action with
    | call action => cases isInput
    | _ =>
      rw [step, control] at stepped
      cases stepped
  | _ => rfl

/-- A call that has returned keeps its result. -/
theorem step_returned {call next : InitCall} {action : InitAction} (returned : call.result.isSome)
    (stepped : call.step action = some next) : next = call := by
  unfold result at returned
  cases control : call.control with
  | returned initialized stateType =>
    cases action <;>
    · rw [step, control] at stepped
      exact (Option.some.inj stepped).symm
  | _ =>
    rw [control] at returned
    cases returned

/-- Without a verdict the call goes on. -/
theorem polled_of_not_decided {object : OnSipXmpp}
    (notDecided : ¬ object.xmpp.lastInitState.Decided) : polled object = ⟨.waiting, object⟩ := by
  obtain ⟨notOk, notFatal, notDisconnected⟩ :
      getInitStatesType object.xmpp.lastInitState ≠ .ok ∧
        getInitStatesType object.xmpp.lastInitState ≠ .fatal ∧
          getInitStatesType object.xmpp.lastInitState ≠ .disconnected := by
    simpa only [InitStates.Decided, not_or] using notDecided
  unfold polled
  rw [if_neg (by simp [notFatal, notDisconnected]), if_neg notOk]

/-- The same verdict ends both calls, or none. -/
theorem Alike.polled {first second : OnSipXmpp} (same : SameSession first second)
    (timer : first.tmrConnectLoop = second.tmrConnectLoop) :
    Alike (polled first) (polled second) := by
  rcases same.verdict with equal | ⟨notDecided, otherNotDecided⟩
  · unfold InitCall.polled
    rw [equal]
    dsimp only
    split_ifs
    · exact ⟨same, Prod.ext rfl timer⟩
    · exact ⟨⟨same.machine, same.verdict⟩, Prod.ext rfl timer⟩
    · exact ⟨same, Prod.ext rfl timer⟩
  · rw [polled_of_not_decided notDecided, polled_of_not_decided otherNotDecided]
    exact ⟨same, Prod.ext rfl timer⟩

/-- The same input keeps two calls alike. -/
theorem Alike.input {first second firstNext secondNext : InitCall} {action : InitAction}
    (alike : Alike first second) (isInput : action.isInput = true)
    (stepped : first.step action = some firstNext)
    (otherStepped : second.step action = some secondNext) : Alike firstNext secondNext := by
  have same := alike.settled
  rw [settled_of_input isInput stepped, settled_of_input isInput otherStepped] at same
  obtain ⟨control, timer⟩ := Prod.mk.inj same
  obtain ⟨session, settled⟩ := alike
  obtain ⟨where_, object⟩ := first
  obtain ⟨otherWhere, other⟩ := second
  obtain rfl : where_ = otherWhere := control
  by_cases returned : (InitCall.mk where_ object).result.isSome
  · obtain rfl := step_returned returned stepped
    obtain rfl := @step_returned ⟨where_, other⟩ _ _ returned otherStepped
    exact ⟨session, settled⟩
  have otherNot : ¬ (InitCall.mk where_ other).result.isSome := returned
  cases action with
  | call action => cases isInput
  | arrive arrival =>
    obtain ⟨-, rfl⟩ := (step_arrive stepped).resolve_left fun done => returned done.1
    obtain ⟨place, rfl⟩ := (step_arrive otherStepped).resolve_left fun done => otherNot done.1
    refine ⟨session.arrive arrival, ?_⟩
    unfold InitCall.settled
    simp only [tmrConnectLoop_arrive]
    exact settled
  | connected success =>
    obtain ⟨-, rfl⟩ := (step_connected stepped).resolve_left fun done => returned done.1
    obtain ⟨-, rfl⟩ := (step_connected otherStepped).resolve_left fun done => otherNot done.1
    refine ⟨session, ?_⟩
    cases success <;> exact Prod.ext rfl timer
  | checkStop signalled reading =>
    obtain ⟨-, rfl⟩ := (step_checkStop stepped).resolve_left fun done => returned done.1
    obtain ⟨-, rfl⟩ := (step_checkStop otherStepped).resolve_left fun done => otherNot done.1
    refine ⟨session, ?_⟩
    cases signalled <;> exact Prod.ext rfl timer
  | checkTime time loopTime readings reset =>
    obtain ⟨timeOut, here, outcome⟩ :=
      (step_checkTime stepped).resolve_left fun done => returned done.1
    obtain ⟨otherTimeOut, there, otherOutcome⟩ :=
      (step_checkTime otherStepped).resolve_left fun done => otherNot done.1
    obtain rfl : timeOut = otherTimeOut := by
      have controls := here.symm.trans there
      exact InitControl.polling.inj controls
    change object.tmrConnectLoop = other.tmrConnectLoop at timer
    rw [← timer] at otherOutcome
    rcases outcome with ⟨late, rfl⟩ | ⟨inTime, loops, rfl⟩ | ⟨inTime, waits, rfl⟩
    · obtain ⟨-, rfl⟩ := otherOutcome.resolve_right (by simp [late])
      exact .polled session timer
    · obtain ⟨-, -, rfl⟩ := (otherOutcome.resolve_left (by simp [inTime])).resolve_right
        (by simp [loops])
      refine ⟨session.pollInit readings, Prod.ext rfl ?_⟩
      show object.tmrConnectLoop.reset reset = other.tmrConnectLoop.reset reset
      rw [timer]
    · obtain ⟨-, -, rfl⟩ := (otherOutcome.resolve_left (by simp [inTime])).resolve_left
        (by simp [waits])
      exact ⟨session, Prod.ext rfl timer⟩
  | received error =>
    obtain ⟨timeOut, here, rfl⟩ := (step_received stepped).resolve_left fun done => returned done.1
    obtain ⟨otherTimeOut, there, rfl⟩ :=
      (step_received otherStepped).resolve_left fun done => otherNot done.1
    obtain rfl : timeOut = otherTimeOut := by
      have controls := here.symm.trans there
      exact InitControl.receiving.inj controls
    refine ⟨session, ?_⟩
    by_cases fine : error = .connNoError
    · simp only [if_pos fine]
      exact Prod.ext rfl timer
    · simp only [if_neg fine]
      exact Prod.ext rfl timer

/-- Two calls that are alike stay so as long as they find the same outside. -/
theorem Alike.leads {inputs : List InitAction} {first second firstLast secondLast : InitCall}
    (firstLeads : Leads step InitAction.isInput inputs first firstLast)
    (secondLeads : Leads step InitAction.isInput inputs second secondLast)
    (alike : Alike first second) : Alike firstLast secondLast := by
  have hidden : ∀ {action : InitAction}, action.isInput = false → ∃ call, action = .call call := by
    intro action hidden
    cases action with
    | call action => exact ⟨action, rfl⟩
    | _ => cases hidden
  refine leads_related ?_ ?_ ?_ firstLeads secondLeads alike
  · intro first second action next isCall stepped alike
    obtain ⟨action, rfl⟩ := hidden isCall
    obtain ⟨login, same⟩ := settled_call stepped
    exact alike.left login same
  · intro first second action next isCall stepped alike
    obtain ⟨action, rfl⟩ := hidden isCall
    obtain ⟨login, same⟩ := settled_call stepped
    exact alike.right login same
  · intro first second action firstNext secondNext isInput stepped otherStepped alike
    exact alike.input isInput stepped otherStepped

/-- The result is a matter of where the call stands for the outside. -/
theorem result_settled (call : InitCall) :
    call.result = (InitCall.mk call.settled.1 call.object).result := by
  unfold result settled
  cases call.control <;> rfl

/-- Calls that are alike have the same result. -/
theorem Alike.result {first second : InitCall} (alike : Alike first second) :
    first.result = second.result := by
  rw [result_settled first, result_settled second, alike.settled]
  rfl

end InitCall

namespace OnSipXmpp

/-! ### Sessions that begin with nothing of an earlier one -/

/-- Nothing of an earlier session is left that the next one could take for its own: no verdict, no
driver and no request to shut down. -/
structure Clean (object : OnSipXmpp) : Prop where
  notDecided : ¬ object.xmpp.lastInitState.Decided
  handlerRequests : object.initStateMachine.handlerRequests = []
  events : object.initStateMachine.events = []

instance (object : OnSipXmpp) : Decidable object.Clean :=
  decidable_of_iff (¬ object.xmpp.lastInitState.Decided ∧
      object.initStateMachine.handlerRequests = [] ∧ object.initStateMachine.events = [])
    ⟨fun ⟨notDecided, requests, events⟩ => ⟨notDecided, requests, events⟩,
      fun clean => ⟨clean.notDecided, clean.handlerRequests, clean.events⟩⟩

/-- A session that begins leaves the last notified state of the login. -/
theorem lastInitState_begin (reading : Reading) (loginInfo : LoginInfo) (object : OnSipXmpp) :
    (InitCall.begin reading loginInfo object).object.xmpp.lastInitState =
      object.xmpp.lastInitState := by
  have removed := callVirtuals_lastInitState.removeStateHandlers object.calls.stateHandlers
    (object.clearEvents.withInit (object.clearEvents.initStateMachine.removeStateHandlers
      initVirtuals object.clearEvents.xmpp)).xmpp
  have left : (object.clearEvents.initStateMachine.removeStateHandlers initVirtuals
      object.clearEvents.xmpp).2 = object.clearEvents.xmpp :=
    congrArg Prod.snd (removeStateHandlers_initVirtuals _ _)
  refine removed.trans ?_
  show (object.clearEvents.initStateMachine.removeStateHandlers initVirtuals
    object.clearEvents.xmpp).2.lastInitState = _
  rw [left]
  rfl

/-- In a clean object the new driver is alone. -/
theorem Clean.waits {object : OnSipXmpp} (clean : object.Clean) (reading : Reading)
    (loginInfo : LoginInfo) :
    Waits (InitCall.begin reading loginInfo object).object.initStateMachine
      (InitStateHandler.new reading) where
  stateHandlers := rfl
  handlerRequests := by
    show object.initStateMachine.handlerRequests ++ [InitStateHandler.new reading] = _
    rw [clean.handlerRequests, List.nil_append]
  requestChange := Nat.succ_pos _
  events := clean.events
  going := InitStateHandler.going_new reading

/-- Sessions of two clean objects begin alike. -/
theorem Clean.alike {first second : OnSipXmpp} (clean : first.Clean) (otherClean : second.Clean)
    (timer : first.tmrConnectLoop = second.tmrConnectLoop) (reading : Reading)
    (loginInfo : LoginInfo) :
    InitCall.Alike (InitCall.begin reading loginInfo first)
      (InitCall.begin reading loginInfo second) := by
  refine ⟨⟨?_, ?_⟩, Prod.ext rfl timer⟩
  · exact .waits 0 (clean.waits reading loginInfo) (otherClean.waits reading loginInfo)
  · rw [lastInitState_begin, lastInitState_begin]
    exact Or.inr ⟨clean.notDecided, otherClean.notDecided⟩

/-- Whatever the two calls of `InitOnSipTapi` find outside, if they find the same, then they go on
together and have the same result. -/
def SameOutcomes (first second : OnSipXmpp) : Prop :=
  ∀ reading loginInfo inputs firstLast secondLast,
    Leads InitCall.step InitAction.isInput inputs (InitCall.begin reading loginInfo first)
      firstLast →
    Leads InitCall.step InitAction.isInput inputs (InitCall.begin reading loginInfo second)
      secondLast →
    firstLast.result = secondLast.result

/-- The same, but only once both calls have returned -/
def SameReturns (first second : OnSipXmpp) : Prop :=
  ∀ reading loginInfo inputs firstLast secondLast outcome other,
    Leads InitCall.step InitAction.isInput inputs (InitCall.begin reading loginInfo first)
      firstLast →
    Leads InitCall.step InitAction.isInput inputs (InitCall.begin reading loginInfo second)
      secondLast →
    firstLast.result = some outcome → secondLast.result = some other → outcome = other

theorem Clean.sameOutcomes {first second : OnSipXmpp} (clean : first.Clean)
    (otherClean : second.Clean) (timer : first.tmrConnectLoop = second.tmrConnectLoop) :
    SameOutcomes first second := by
  intro reading loginInfo inputs firstLast secondLast firstLeads secondLeads
  exact (InitCall.Alike.leads firstLeads secondLeads
    (clean.alike otherClean timer reading loginInfo)).result

/-! ### The verdict of the own driver -/

/-- The object has one driver, what the given one has become, and every verdict is its own. -/
def OwnVerdict (origin : InitStateHandler) (object : OnSipXmpp) : Prop :=
  ∃ handler, (Lists object.initStateMachine handler ∨ Waits object.initStateMachine handler) ∧
    origin.Evolves handler ∧
    (object.xmpp.lastInitState.Decided → handler.state = object.xmpp.lastInitState)

theorem OwnVerdict.of_sameLogin {origin : InitStateHandler} {object next : OnSipXmpp}
    (own : object.OwnVerdict origin) (login : SameLogin object next) : next.OwnVerdict origin := by
  obtain ⟨machine, lastState⟩ := login
  unfold OwnVerdict
  rw [machine, lastState]
  exact own

theorem OwnVerdict.pollInit {origin : InitStateHandler} {object : OnSipXmpp}
    (own : object.OwnVerdict origin) (readings : StateMachineBase.PollReadings) :
    (object.pollInit readings).OwnVerdict origin := by
  obtain ⟨handler, driver, evolves, verdict⟩ := own
  obtain ⟨listed, lastState⟩ := pollInit_driver driver readings
  refine ⟨_, Or.inl listed, evolves.tail (.pollStateHandler _ handler object.xmpp), ?_⟩
  rw [lastState, InitStateHandler.lastInitState_polled]
  rcases InitStateHandler.pollStateHandler_cases (readings.last.poll 0) handler object.xmpp with
    ⟨unchanged, same⟩ | ⟨-, changed, -⟩
  · rw [unchanged, InitStateHandler.state, same]
    exact verdict
  · rw [changed]
    exact fun _ => rfl

theorem OwnVerdict.signalEvent {origin : InitStateHandler} {object : OnSipXmpp}
    (own : object.OwnVerdict origin) (initReadings callReadings : Readings) {event : XmppEvent}
    (fromConnection : event.data.fromConnection = true) :
    (object.signalEvent initReadings callReadings event).OwnVerdict origin := by
  obtain ⟨handler, lists | waits, evolves, verdict⟩ := own
  · obtain ⟨listed, lastState⟩ := signalEvent_lists lists initReadings callReadings fromConnection
    rw [(InitStateHandler.offered_fst _ _ _ _).2] at listed
    refine ⟨_, Or.inl listed, evolves.tail (.isYourEvent _ handler event object.xmpp), ?_⟩
    rw [lastState, InitStateHandler.lastInitState_offered]
    cases accepted : (handler.isYourEvent initReadings.offer event object.xmpp).1 with
    | true => exact fun _ => rfl
    | false =>
      rw [InitStateHandler.isYourEvent_refused accepted]
      exact verdict
  · obtain ⟨stillWaits, lastState⟩ := signalEvent_waits waits initReadings callReadings event
    exact ⟨handler, Or.inr stillWaits, evolves, lastState ▸ verdict⟩

/-- A change of the handlers that keeps their states keeps the verdict the driver's own. -/
theorem OwnVerdict.mapHandlers {origin : InitStateHandler} {object : OnSipXmpp}
    (own : object.OwnVerdict origin) (change : InitStateHandler → InitStateHandler)
    (changes : List InitStateHandler → List InitStateHandler)
    (state : ∀ handler, (change handler).state = handler.state)
    (moves : ∀ handler, InitStateHandler.Evolves handler (change handler))
    (single : ∀ handler, changes [handler] = [change handler]) (empty : changes [] = []) :
    OwnVerdict origin { object with initStateMachine := { object.initStateMachine with
      stateHandlers := changes object.initStateMachine.stateHandlers } } := by
  obtain ⟨handler, lists | waits, evolves, verdict⟩ := own
  · refine ⟨change handler, Or.inl ⟨?_, lists.handlerRequests, lists.events, ?_⟩,
      evolves.trans (moves handler), fun decided => (state handler).trans (verdict decided)⟩
    · exact (congrArg changes lists.stateHandlers).trans (single handler)
    · exact lists.going.of_state (state handler)
  · refine ⟨handler, Or.inr ⟨?_, waits.handlerRequests, waits.requestChange, waits.events,
      waits.going⟩, evolves, verdict⟩
    exact (congrArg changes waits.stateHandlers).trans empty

theorem OwnVerdict.arrive {origin : InitStateHandler} {object : OnSipXmpp}
    (own : object.OwnVerdict origin) (arrival : Arrival) :
    (object.arrive arrival).OwnVerdict origin := by
  cases arrival with
  | event initReadings callReadings event fromConnection =>
    exact own.signalEvent initReadings callReadings fromConnection
  | workerReply index event =>
    cases index with
    | zero =>
      exact own.mapHandlers (·.handleIqID event) (·.modify 0 (·.handleIqID event)) (fun _ => rfl)
        (fun handler => .single (.handleIqID event handler)) (fun _ => rfl) rfl
    | succ index =>
      refine own.mapHandlers id (·.modify (index + 1) (·.handleIqID event)) (fun _ => rfl)
        (fun _ => .refl) (fun handler => ?_) rfl
      rw [List.modify_succ_cons, List.modify_nil]
      rfl
  | workerMessage event =>
    exact own.mapHandlers (·.handleMessage event) (List.map (·.handleMessage event))
      (fun _ => rfl) (fun handler => .single (.handleMessage event handler)) (fun _ => rfl) rfl

end OnSipXmpp

namespace InitCall

open OnSipXmpp

theorem ownVerdict_polled {origin : InitStateHandler} {object : OnSipXmpp}
    (own : object.OwnVerdict origin) : (polled object).object.OwnVerdict origin := by
  unfold polled
  dsimp only
  split_ifs
  · exact own
  · exact own
  · exact own

/-- Every step of the call keeps the verdict the driver's own. -/
theorem ownVerdict_step {origin : InitStateHandler} {call next : InitCall} {action : InitAction}
    (stepped : call.step action = some next) (own : call.object.OwnVerdict origin) :
    next.object.OwnVerdict origin := by
  cases action with
  | call action => exact own.of_sameLogin (settled_call stepped).1
  | arrive arrival =>
    rcases step_arrive stepped with ⟨-, rfl⟩ | ⟨-, rfl⟩
    · exact own
    · exact own.arrive arrival
  | connected success =>
    rcases step_connected stepped with ⟨-, rfl⟩ | ⟨-, rfl⟩ <;> exact own
  | checkStop signalled reading =>
    rcases step_checkStop stepped with ⟨-, rfl⟩ | ⟨-, rfl⟩ <;> exact own
  | checkTime time loopTime readings reset =>
    rcases step_checkTime stepped with ⟨-, rfl⟩ | ⟨timeOut, -, ⟨-, rfl⟩ | ⟨-, -, rfl⟩ | ⟨-, -, rfl⟩⟩
    · exact own
    · exact ownVerdict_polled own
    · exact own.pollInit readings
    · exact own
  | received error =>
    rcases step_received stepped with ⟨-, rfl⟩ | ⟨timeOut, -, rfl⟩ <;> exact own

/-! ### What explains a result -/

/-- The driver that the session has created with this reading is in the state. -/
def Entered (reading : Reading) (state : InitStates) (call : InitCall) : Prop :=
  ∃ handler ∈ call.object.drivers,
    (InitStateHandler.new reading).Evolves handler ∧ handler.state = state

/-- The connect or `recv` fails, or the stop event is signalled. -/
def fails : InitAction → Prop
  | .connected success => success = false
  | .checkStop signalled _ => signalled = true
  | .received error => error ≠ .connNoError
  | _ => False

/-- The session itself explains the result that the action has led to. -/
def Explains (reading : Reading) (action : InitAction) (after : InitCall) :
    Bool × InitStatesType → Prop
  | (true, stateType) => stateType = .ok ∧ after.Entered reading .ok
  | (false, stateType) => (stateType = .disconnected ∨ stateType = .fatal) ∧
      (fails action ∨ ∃ state, getInitStatesType state = stateType ∧ after.Entered reading state)

end InitCall

namespace OnSipXmpp

/-- Every result of a call of `InitOnSipTapi` is explained by its own session. -/
def Explained (object : OnSipXmpp) : Prop :=
  ∀ reading loginInfo first action before after outcome,
    run InitCall.step first (InitCall.begin reading loginInfo object) = some before →
    before.result = none → before.step action = some after → after.result = some outcome →
    InitCall.Explains reading action after outcome

end OnSipXmpp

namespace InitCall

open OnSipXmpp

/-- A decided state of the own driver explains the result of a `Poll`. -/
theorem explains_polled {reading : Reading} {object : OnSipXmpp} {action : InitAction}
    {outcome : Bool × InitStatesType}
    (own : object.OwnVerdict (InitStateHandler.new reading))
    (result : (polled object).result = some outcome) :
    Explains reading action (polled object) outcome := by
  by_cases decided : object.xmpp.lastInitState.Decided
  · obtain ⟨handler, driver, evolves, verdict⟩ := own
    have same := verdict decided
    have member : handler ∈ object.drivers := by
      unfold drivers
      rcases driver with lists | waits
      · simp [lists.stateHandlers]
      · simp [waits.handlerRequests]
    have going : handler.state ≠ .shuttingDown := by
      rcases driver with lists | waits
      · exact lists.going.notShuttingDown
      · exact waits.going.notShuttingDown
    revert result
    unfold polled
    rw [← same]
    dsimp only
    split_ifs with failed succeeded
    · intro result
      obtain rfl := Option.some.inj result
      exact ⟨failed, Or.inr ⟨handler.state, rfl, handler, member, evolves, rfl⟩⟩
    · intro result
      obtain rfl := Option.some.inj result
      refine ⟨rfl, handler, member, evolves, ?_⟩
      revert succeeded going
      cases handler.state <;> decide
    · intro result
      cases result
  · rw [polled_of_not_decided decided] at result
    cases result

/-- A step with which a call with its own driver returns explains the result. -/
theorem explains_step {reading : Reading} {before after : InitCall} {action : InitAction}
    {outcome : Bool × InitStatesType}
    (own : before.object.OwnVerdict (InitStateHandler.new reading)) (waits : before.result = none)
    (stepped : before.step action = some after) (result : after.result = some outcome) :
    Explains reading action after outcome := by
  have notReturned : ¬ before.result.isSome := by simp [waits]
  cases action with
  | call action =>
    have same : after.result = before.result := by
      rw [result_settled after, (settled_call stepped).2, result_settled before]
      rfl
    rw [same, waits] at result
    cases result
  | arrive arrival =>
    obtain ⟨place, rfl⟩ := (step_arrive stepped).resolve_left fun done => notReturned done.1
    have same : InitCall.result ⟨before.control, before.object.arrive arrival⟩ = before.result := rfl
    rw [same, waits] at result
    cases result
  | connected success =>
    obtain ⟨-, rfl⟩ := (step_connected stepped).resolve_left fun done => notReturned done.1
    cases success with
    | true => cases result
    | false =>
      obtain rfl := Option.some.inj result
      exact ⟨Or.inl rfl, Or.inl rfl⟩
  | checkStop signalled reading =>
    obtain ⟨-, rfl⟩ := (step_checkStop stepped).resolve_left fun done => notReturned done.1
    cases signalled with
    | false => cases result
    | true =>
      obtain rfl := Option.some.inj result
      exact ⟨Or.inr rfl, Or.inl rfl⟩
  | checkTime time loopTime readings reset =>
    obtain ⟨timeOut, -, ⟨-, rfl⟩ | ⟨-, -, rfl⟩ | ⟨-, -, rfl⟩⟩ :=
      (step_checkTime stepped).resolve_left fun done => notReturned done.1
    · exact explains_polled own result
    · cases result
    · cases result
  | received error =>
    obtain ⟨timeOut, -, rfl⟩ := (step_received stepped).resolve_left fun done => notReturned done.1
    by_cases fine : error = .connNoError
    · rw [if_pos fine] at result
      cases result
    · rw [if_neg fine] at result
      obtain rfl := Option.some.inj result
      exact ⟨Or.inl rfl, Or.inl fine⟩

end InitCall

namespace OnSipXmpp

/-- A clean object explains its results. -/
theorem Clean.explained {object : OnSipXmpp} (clean : object.Clean) : object.Explained := by
  intro reading loginInfo first action before after outcome reached waits stepped result
  have start : (InitCall.begin reading loginInfo object).object.OwnVerdict
      (InitStateHandler.new reading) := by
    refine ⟨_, Or.inr (clean.waits reading loginInfo), .refl, fun decided => ?_⟩
    rw [lastInitState_begin] at decided
    exact absurd decided clean.notDecided
  have own := run_invariant (fun _ _ _ stepped own => InitCall.ownVerdict_step stepped own)
    reached start
  exact InitCall.explains_step own waits stepped result

/-! ### Two sessions -/

/-- Two objects that come to a call of `InitOnSipTapi` with no verdict, no driver and no shutdown
request of an earlier session, and with the same timer, have the same outcomes, and each call is
explained by its own session. -/
theorem ownSession {first second : OnSipXmpp} (clean : first.Clean) (otherClean : second.Clean)
    (timer : first.tmrConnectLoop = second.tmrConnectLoop) :
    SameOutcomes first second ∧ first.Explained ∧ second.Explained :=
  ⟨clean.sameOutcomes otherClean timer, clean.explained, otherClean.explained⟩

end OnSipXmpp

/-! ### Concrete sessions -/

namespace Example

open OnSipXmpp

/-- A session that is still connecting when the call of `InitOnSipTapi` is given up -/
def connectOnly : List Action := .start (reading 0) login :: pollBoth 250

/-- The next call connects, its `Poll` finds nothing, and then the program is stopped. -/
def pollThenStop : List InitAction :=
  [.connected true, .checkStop false (reading 400),
    .checkTime (reading 1400) (reading 400) (.still (reading 400)) (reading 400),
    .checkStop true (reading 1400)]

end Example

namespace OnSipXmpp

/-- After a session that has logged in, the next call takes the old verdict for its own. -/
theorem sameReturns_afterLogIn :
    ¬ ∀ (reading otherReading : Reading) (actions otherActions : List Action)
      (first second : OnSipXmpp),
      run OnSipXmpp.step actions (OnSipXmpp.new reading) = some first →
      run OnSipXmpp.step otherActions (OnSipXmpp.new otherReading) = some second →
      SameReturns first second := by
  intro claim
  have reached : run OnSipXmpp.step (Example.logIn) (OnSipXmpp.new (Example.reading 0)) =
    some _ := rfl
  have fresh : run OnSipXmpp.step [] (OnSipXmpp.new (Example.reading 250)) = some _ := rfl
  have same := claim _ _ _ _ _ _ reached fresh (Example.reading 400) Example.login
    Example.pollThenStop _ _ (true, .ok) (false, .fatal)
    (leads_of_visible (by decide) rfl) (leads_of_visible (by decide) rfl) rfl rfl
  cases same

theorem ownSession_connectOnly :
    ∃ object, run OnSipXmpp.step Example.connectOnly (OnSipXmpp.new (Example.reading 0)) =
        some object ∧
      SameOutcomes object (OnSipXmpp.new (Example.reading 250)) ∧ object.Explained ∧
        (OnSipXmpp.new (Example.reading 250)).Explained := by
  have reached : run OnSipXmpp.step Example.connectOnly (OnSipXmpp.new (Example.reading 0)) =
    some _ := rfl
  exact ⟨_, reached, ownSession (by decide) (by decide) (by decide)⟩

end OnSipXmpp

end JnTapi
