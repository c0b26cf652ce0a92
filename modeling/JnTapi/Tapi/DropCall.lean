/-
This file models the dropping of a call through TAPI and proves when it leaves
the call appearance IDLE.

The events that the connection thread passes on go to `COnSipLine::OnDropCall`
as long as its request is there, and to `UnsolicitedEvent` when it does not take
them. `OnDropCall` takes the events of its own call without a change of the call
appearance, so only an event that comes after the request can make it IDLE.
-/

import JnTapi.Tapi.MakeCall
import JnTapi.Tapi.Unsolicited

namespace JnTapi

open Library

/-! ### Requests -/

/-- `RTDropCall` with the call id of its call appearance -/
structure DropCallRequest where
  callId : Dword
  state : RequestState
  /-- `m_dwStateTime` -/
  stateTime : Dword
  completion : Option Completion
deriving DecidableEq, Repr

namespace DropCallRequest

/-- A request that TSP++ dispatches for the first time -/
def new (callId : Dword) : DropCallRequest := ⟨callId, .initial, 0, none⟩

/-- `CTSPIRequest::SetState` -/
def setState (tickCount : Dword) (state : RequestState) (request : DropCallRequest) :
    DropCallRequest :=
  { request with state := state, stateTime := tickCount }

/-- `CTSPIConnection::CompleteRequest` with the removal of the request -/
def completeRequest (completion : Completion) (request : DropCallRequest) : DropCallRequest :=
  if request.state = .completed then request
  else { request with state := .completed, completion := some completion }

/-- `OnDropCall` finds an event of its call. -/
def ownEvent (event : Option CallNotification) (request : DropCallRequest) : Bool :=
  match event with
  | some notification => notification.callId = request.callId
  | none => false

/-- `COnSipLine::OnDropCall`: whether it has taken the event. In the initial state it is the part up
to `DRV_DropCall`, which the thread goes on with afterwards. A request that is completed is not
dispatched any more, and takes nothing. -/
def onDropCall (event : Option CallNotification) (tickCount : Dword)
    (request : DropCallRequest) : Bool × DropCallRequest :=
  match request.state with
  | .initial => (true, request.setState tickCount .waiting)
  | .waiting =>
    if request.ownEvent event then
      match event.map CallNotification.tapiCallState with
      | some .idle => (true, request.completeRequest .succeeded)
      | _ => (true, request)
    else if request.stateTime + requestTimeout < tickCount then
      (false, request.completeRequest .timedOut)
    else (false, request)
  | _ => (false, request)

end DropCallRequest

/-! ### The line -/

/-- The line with the request to drop a call -/
structure DroppingLine where
  tapi : TapiLine
  request : DropCallRequest
  /-- The thread that has entered the request stands at `DRV_DropCall`. -/
  entered : Bool
deriving DecidableEq, Repr

/-- One step of one of the threads. -/
inductive DroppingAction
  /-- A step of the connection thread, or of a thread that makes or drops calls -/
  | thread (action : ThreadAction)
  /-- `ReceiveData` is called with the next event. -/
  | receiveData (tickCount : Dword)
  /-- `ReceiveData` is called without an event, when the request is added or by the interval
  timer. -/
  | onTimer (tickCount : Dword)
  /-- `DRV_DropCall`, and what is left of the first part of `OnDropCall` -/
  | drvDropCall

/-- TAPI drops a call. -/
def TapiLine.dropCall (callId : Dword) (tapi : TapiLine) : DroppingLine :=
  ⟨tapi, DropCallRequest.new callId, false⟩

namespace DroppingLine

/-- The call appearance of the request, as `FindCallByCallID` finds it -/
def call (system : DroppingLine) : Option CallAppearance :=
  system.tapi.line.findCallByCallId system.request.callId

/-- `OnDropCall` has been called, and the line is as it leaves it. -/
def dispatched (request : DropCallRequest) (line : Line) (system : DroppingLine) :
    DroppingLine :=
  { system with
    tapi := { system.tapi with line := line }
    request := request
    entered := system.entered || system.request.state = .initial }

/-- `CTSPIConnection::ReceiveData`: what the request does not take goes to `UnsolicitedEvent`. -/
def receiveData (event : Option CallNotification) (tickCount : Dword) (system : DroppingLine) :
    DroppingLine :=
  let (taken, request) := system.request.onDropCall event tickCount
  match event with
  | some event =>
    system.dispatched request
      (if taken then system.tapi.line else (system.tapi.line.unsolicitedCallEvent event).2)
  | none => system.dispatched request system.tapi.line

/-- One step of the line; `none` when no thread stands where the step begins. -/
def step (system : DroppingLine) : DroppingAction → Option DroppingLine
  | .thread action =>
    (system.tapi.step (.thread action)).map fun tapi => { system with tapi := tapi }
  | .receiveData tickCount =>
    match system.tapi.queued with
    | event :: rest =>
      some ({ system with tapi := { system.tapi with queued := rest } }.receiveData (some event)
        tickCount)
    | [] => none
  | .onTimer tickCount => some (system.receiveData none tickCount)
  | .drvDropCall =>
    if system.entered then
      if system.tapi.thread.control = .exited then
        some { system with request := system.request.completeRequest .failed, entered := false }
      else
        (system.tapi.step (.thread (system.tapi.thread.byOther
          (.dropCallAsync system.request.callId)))).map fun tapi =>
            { system with tapi := tapi, entered := false }
    else none

/-! ### What is heard of the end of the call -/

/-- The event that the step passes to `ReceiveData` -/
def received (system : DroppingLine) : DroppingAction → List CallNotification
  | .receiveData _ => system.tapi.queued.take 1
  | _ => []

/-- For each `Dropped` notification of the call that is dispatched, whether the request waits -/
def heard (system : DroppingLine) (action : DroppingAction) : List Bool :=
  ((system.received action).filter fun event =>
    event.callId = system.request.callId ∧ event.tapiCallState = .idle).map fun _ =>
      system.request.state = .waiting

/-- The call appearance is there, and IDLE. -/
def Idle (system : DroppingLine) : Prop := ∃ call ∈ system.call, call.callState = .idle

instance (system : DroppingLine) : Decidable system.Idle := by
  unfold Idle
  exact Option.decidableExistsMem _

end DroppingLine

namespace DropCallRequest

variable {request : DropCallRequest} {event : Option CallNotification}

@[simp] theorem callId_completeRequest (completion : Completion) :
    (request.completeRequest completion).callId = request.callId := by
  unfold completeRequest
  split_ifs <;> rfl

theorem state_completeRequest (completion : Completion) :
    (request.completeRequest completion).state = .completed := by
  unfold completeRequest
  split_ifs with completed
  · exact completed
  · rfl

@[simp] theorem callId_onDropCall (event : Option CallNotification) (tickCount : Dword) :
    (request.onDropCall event tickCount).2.callId = request.callId := by
  unfold onDropCall
  split
  · rfl
  · split_ifs
    · split <;> simp
    · simp
    · rfl
  · rfl

/-- A request that waits takes the events of its call, and is completed by an IDLE one. -/
theorem onDropCall_own {event : CallNotification} (waits : request.state = .waiting)
    (own : event.callId = request.callId) (tickCount : Dword) :
    request.onDropCall (some event) tickCount =
      (true, if event.tapiCallState = .idle then request.completeRequest .succeeded
        else request) := by
  have owns : request.ownEvent (some event) = true := decide_eq_true own
  rw [onDropCall, waits]
  dsimp only [Option.map]
  rw [if_pos owns]
  cases event.tapiCallState <;> rfl

/-- A request that waits leaves any other event to the line, and may be completed by its
time-out. -/
theorem onDropCall_other (waits : request.state = .waiting)
    (other : request.ownEvent event = false) (tickCount : Dword) :
    (request.onDropCall event tickCount).1 = false ∧
      ((request.onDropCall event tickCount).2.state = .waiting ∨
        (request.onDropCall event tickCount).2.state = .completed) := by
  rw [onDropCall, waits]
  dsimp only
  rw [if_neg (by simp [other])]
  split_ifs
  · exact ⟨rfl, Or.inr (state_completeRequest _)⟩
  · exact ⟨rfl, Or.inl waits⟩

theorem onDropCall_completed (completed : request.state = .completed)
    (event : Option CallNotification) (tickCount : Dword) :
    request.onDropCall event tickCount = (false, request) := by
  rw [onDropCall, completed]

end DropCallRequest

namespace Line

/-- An event of another call leaves a call appearance as it is. -/
theorem findCallByCallId_other {callId : Dword} {event : CallNotification} {line : Line}
    (other : event.callId ≠ callId) :
    (line.unsolicitedCallEvent event).2.findCallByCallId callId = line.findCallByCallId callId := by
  have added : ∀ call : CallAppearance, call.callId = event.callId →
      (line.addCall call).findCallByCallId callId = line.findCallByCallId callId := by
    intro call same
    rw [findCallByCallId_addCall, if_neg (by rw [same]; exact other), Option.or_none]
  unfold unsolicitedCallEvent
  split
  · split
    · exact added _ (callId_onNewCallDetected false event line)
    · exact added _ (by simp)
    · rfl
    · rfl
  · exact findCallByCallId_updateCall_other line (CallAppearance.callId_activeCall event) other.symm

end Line

namespace DroppingLine

/-- What holds as long as the call appearance is there: it is IDLE when it was so at first, or when
a `Dropped` notification has come that was not the first for the request. -/
structure Follows (callId : Dword) (first : CallAppearance) (past : List Bool)
    (system : DroppingLine) : Prop where
  own : system.request.callId = callId
  state : system.request.state = .waiting ∧ past = [] ∨ system.request.state = .completed
  shown : ∃ call ∈ system.tapi.line.findCallByCallId callId,
    (call.callState = .idle ↔ first.callState = .idle ∨ past ≠ [] ∧ past ≠ [true])

section follows

variable {callId : Dword} {first : CallAppearance} {past : List Bool} {system : DroppingLine}

/-- The connection thread goes on. -/
theorem Follows.tapi (follows : system.Follows callId first past) {tapi : TapiLine}
    (same : tapi.line = system.tapi.line) (entered : Bool) :
    Follows callId first past { system with tapi := tapi, entered := entered } :=
  ⟨follows.own, follows.state, same ▸ follows.shown⟩

/-- The line passes on an event of another call, or none. -/
theorem Follows.receiveOther (follows : system.Follows callId first past)
    {event : Option CallNotification} (other : ∀ notification ∈ event, notification.callId ≠ callId)
    (tickCount : Dword) : (system.receiveData event tickCount).Follows callId first past := by
  have apart : system.request.ownEvent event = false := by
    cases event with
    | none => rfl
    | some notification =>
      exact decide_eq_false (by rw [follows.own]; exact other notification rfl)
  obtain ⟨refused, state⟩ : (system.request.onDropCall event tickCount).1 = false ∧
      ((system.request.onDropCall event tickCount).2.state = .waiting ∧ past = [] ∨
        (system.request.onDropCall event tickCount).2.state = .completed) := by
    rcases follows.state with ⟨waits, none⟩ | completed
    · obtain ⟨refused, still | expired⟩ :=
        DropCallRequest.onDropCall_other waits apart tickCount
      · exact ⟨refused, Or.inl ⟨still, none⟩⟩
      · exact ⟨refused, Or.inr expired⟩
    · rw [DropCallRequest.onDropCall_completed completed event tickCount]
      exact ⟨rfl, Or.inr completed⟩
  have same : (system.request.onDropCall event tickCount).2.callId = system.request.callId :=
    DropCallRequest.callId_onDropCall event tickCount
  cases event with
  | none => exact ⟨same.trans follows.own, state, follows.shown⟩
  | some notification =>
    refine ⟨same.trans follows.own, state, ?_⟩
    show ∃ call ∈ (if (system.request.onDropCall (some notification) tickCount).1 then
      system.tapi.line else (system.tapi.line.unsolicitedCallEvent notification).2).findCallByCallId
        callId, _
    rw [refused, if_neg Bool.false_ne_true, Line.findCallByCallId_other (other notification rfl)]
    exact follows.shown

/-- The line passes on an event of the call. -/
theorem Follows.receiveOwn (follows : system.Follows callId first past)
    {event : CallNotification} (own : event.callId = callId) (tickCount : Dword) :
    (system.receiveData (some event) tickCount).Follows callId first
      (past ++ if event.tapiCallState = .idle then
        [decide (system.request.state = .waiting)] else []) := by
  obtain ⟨call, found, shows⟩ := follows.shown
  rcases follows.state with ⟨waits, rfl⟩ | completed
  · have taken := DropCallRequest.onDropCall_own waits (own.trans follows.own.symm) tickCount
    rw [receiveData, taken]
    dsimp only
    rw [if_pos rfl]
    by_cases idle : event.tapiCallState = .idle
    · rw [if_pos idle, if_pos idle]
      refine ⟨(DropCallRequest.callId_completeRequest _).trans follows.own,
        Or.inr (DropCallRequest.state_completeRequest _), call, found, ?_⟩
      simpa [waits] using shows
    · rw [if_neg idle, if_neg idle]
      exact ⟨follows.own, Or.inl ⟨waits, rfl⟩, call, found, shows⟩
  · have gone := DropCallRequest.onDropCall_completed completed (some event) tickCount
    rw [receiveData, gone]
    dsimp only
    rw [if_neg Bool.false_ne_true]
    subst own
    refine ⟨follows.own, Or.inr completed, call.activeCall event, ?_, ?_⟩
    · show (system.tapi.line.unsolicitedCallEvent event).2.findCallByCallId event.callId = _
      rw [Line.unsolicitedCallEvent_active found,
        Line.findCallByCallId_updateCall _ (CallAppearance.callId_activeCall event), found]
      rfl
    · rw [CallAppearance.callState_activeCall]
      by_cases idle : event.tapiCallState = .idle
      · rw [if_pos idle, completed, idle, ite_self]
        refine ⟨fun _ => Or.inr ⟨by simp, ?_⟩, fun _ => rfl⟩
        intro only
        have last := congrArg List.getLast? only
        rw [List.getLast?_concat] at last
        cases last
      · rw [if_neg idle, List.append_nil, ← shows]
        split_ifs with before
        · simp [before]
        · simp [before, idle]

/-- Every step keeps it, with what it lets be heard of the end of the call. -/
theorem Follows.step {next : DroppingLine} {action : DroppingAction}
    (follows : system.Follows callId first past) (stepped : system.step action = some next) :
    next.Follows callId first (past ++ system.heard action) := by
  cases action with
  | thread action =>
    obtain ⟨tapi, moved, rfl⟩ := Option.map_eq_some_iff.mp stepped
    obtain ⟨thread, -, rfl⟩ := Option.map_eq_some_iff.mp moved
    show Follows callId first (past ++ []) _
    rw [List.append_nil]
    refine follows.tapi ?_ system.entered
    rfl
  | receiveData tickCount =>
    rw [DroppingLine.step] at stepped
    split at stepped
    case h_1 event rest queued =>
      obtain rfl := Option.some.inj stepped
      have line : ({ system.tapi with queued := rest } : TapiLine).line = system.tapi.line := rfl
      have waiting := follows.tapi line system.entered
      rw [heard, received, queued, List.take_one, List.head?_cons, Option.toList_some,
        List.filter_singleton, follows.own]
      by_cases own : event.callId = callId
      · have taken := waiting.receiveOwn own tickCount
        by_cases idle : event.tapiCallState = .idle
        · simpa [own, idle] using taken
        · simpa [own, idle] using taken
      · have other : ∀ notification ∈ some event, notification.callId ≠ callId := by simpa using own
        have left := waiting.receiveOther other tickCount
        simpa [own] using left
    case h_2 => cases stepped
  | onTimer tickCount =>
    obtain rfl := Option.some.inj stepped
    show Follows callId first (past ++ []) _
    rw [List.append_nil]
    exact follows.receiveOther (by simp) tickCount
  | drvDropCall =>
    show Follows callId first (past ++ []) _
    rw [List.append_nil]
    rw [DroppingLine.step] at stepped
    split_ifs at stepped
    · obtain rfl := Option.some.inj stepped
      exact ⟨(DropCallRequest.callId_completeRequest _).trans follows.own,
        Or.inr (DropCallRequest.state_completeRequest _), follows.shown⟩
    · obtain ⟨tapi, moved, rfl⟩ := Option.map_eq_some_iff.mp stepped
      obtain ⟨thread, -, rfl⟩ := Option.map_eq_some_iff.mp moved
      refine follows.tapi ?_ false
      rfl

end follows

/-- From the moment when the request waits, once the end of the call has been heard of, the call
appearance is IDLE, unless the request has waited for the only `Dropped` notification. -/
theorem idle_iff {actions : List DroppingAction} {system last : DroppingLine}
    {call : CallAppearance} (waits : system.request.state = .waiting)
    (found : system.call = some call)
    (reached : run DroppingLine.step actions system = some last)
    (ended : outputs DroppingLine.step heard actions system ≠ []) :
    last.Idle ↔ call.callState = .idle ∨ outputs DroppingLine.step heard actions system ≠ [true] := by
  have start : system.Follows system.request.callId call [] :=
    ⟨rfl, Or.inl ⟨waits, rfl⟩, call, found, by simp⟩
  have follows := run_history (motive := fun past system' =>
    Follows system.request.callId call (outputs DroppingLine.step heard past system) system')
    start ?_ reached
  · obtain ⟨shown, member, shows⟩ := follows.shown
    rw [Idle, DroppingLine.call, follows.own]
    constructor
    · rintro ⟨same, also, idle⟩
      obtain rfl := Option.mem_unique member also
      exact (shows.mp idle).imp_right And.right
    · intro idle
      exact ⟨shown, member, shows.mpr (idle.imp_right fun more => ⟨ended, more⟩)⟩
  · intro past middle action next reachedMiddle stepped follows
    rw [outputs_snoc reachedMiddle stepped]
    exact follows.step stepped

end DroppingLine

/-! ### Concrete runs -/

namespace Example

/-- A call rings in the first `Poll` of the loop, and the line shows it. -/
def ringOnLine : List TapiLineAction :=
  ringAfterLogIn.map .thread ++ [.unsolicitedEvent, .thread .updateState]

/-- The line with the ringing call -/
def ringing : TapiLine :=
  (run TapiLine.step ringOnLine (TapiLine.new (reading 0) login)).getD (TapiLine.new (reading 0) login)

/-- The thread polls both machines in its loop and finds the request to drop the call. -/
def pollDrop (tick : Nat) : List ThreadAction :=
  [.checkTime (reading tick) (reading tick) (.still (reading tick)) (reading tick),
    .call .testRequests, .call .testEvents, .call .takeEvents, .call (.signalNext (readings tick)),
    .call (.pollHandlers (readings tick))]

/-- TAPI drops the call, and the handler waits for the server. -/
def dropOnLine : List DroppingAction :=
  [.onTimer 2500, .drvDropCall] ++
    (.checkStop false (reading 2600) :: pollDrop 2610 ++ pollEnds 3700).map .thread ++
    [.receiveData 3710]

/-- The line whose request waits -/
def dropping : DroppingLine :=
  (run DroppingLine.step dropOnLine (ringing.dropCall 2)).getD (ringing.dropCall 2)

/-- The server does not answer: the handler reaches its time limit, and is removed in the next poll
of the calls. -/
def dropUnanswered : List DroppingAction :=
  .thread (.checkStop false (reading 11900)) :: .onTimer 12499 ::
    (pollLoop 12620 ++ .received .connNoError :: pollLoop 12880 ++ pollEnds 12910).map .thread ++
    [.receiveData 12915]

/-- The server ends the call, which is notified twice. -/
def dropAnswered : List DroppingAction :=
  .thread (.checkStop false (reading 3800)) :: (pollLoop 3900).map .thread ++
    [.thread (.arrive (arrivalAt 4000 (retract "a") (fromConnection_retract "a"))),
      .thread (.received .connNoError),
      .thread (.checkTime (reading 4810) (reading 4810) (.still (reading 4810)) (reading 4810)),
      .thread .processEvent, .thread .processEvent, .thread .updateState,
      .receiveData 4820, .receiveData 4830]

end Example

namespace DroppingLine

theorem idle_iff_dropAnswered :
    run TapiLine.step Example.ringOnLine (TapiLine.new (Example.reading 0) Example.login) =
        some Example.ringing ∧
      run DroppingLine.step Example.dropOnLine (Example.ringing.dropCall 2) =
        some Example.dropping ∧
      outputs DroppingLine.step heard Example.dropAnswered Example.dropping = [true, false] ∧
      ∃ call ∈ Example.dropping.call, ∃ last,
        run DroppingLine.step Example.dropAnswered Example.dropping = some last ∧
        (last.Idle ↔ call.callState = .idle ∨
          outputs DroppingLine.step heard Example.dropAnswered Example.dropping ≠ [true]) := by
  have reached : run DroppingLine.step Example.dropAnswered Example.dropping = some _ := rfl
  exact ⟨rfl, rfl, by decide, _, rfl, _, reached, idle_iff rfl rfl reached (by decide)⟩

/-- A call that the core ends by its time limit rings for ever. -/
theorem not_idle_dropUnanswered :
    ¬ ∀ (reading : Reading) (loginInfo : LoginInfo) (before : List TapiLineAction)
      (tapi : TapiLine) (callId : Dword) (call : CallAppearance) (actions : List DroppingAction)
      (last : DroppingLine),
      run TapiLine.step before (TapiLine.new reading loginInfo) = some tapi →
      tapi.line.findCallByCallId callId = some call → call.callState ≠ .idle →
      run DroppingLine.step actions (tapi.dropCall callId) = some last →
      (∃ event ∈ outputs DroppingLine.step received actions (tapi.dropCall callId),
        event.callId = callId ∧ event.reason = .removedHandler) →
      last.Idle := by
  intro claim
  have first : run TapiLine.step Example.ringOnLine
    (TapiLine.new (Example.reading 0) Example.login) = some Example.ringing := rfl
  have second : run DroppingLine.step (Example.dropOnLine ++ Example.dropUnanswered)
    (Example.ringing.dropCall 2) = some _ := rfl
  have idle := claim _ _ _ _ 2 _ _ _ first rfl (by decide) second (by decide)
  revert idle
  decide

end DroppingLine

end JnTapi
