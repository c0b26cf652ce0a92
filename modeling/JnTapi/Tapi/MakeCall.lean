/-
This file models the making of a call through TAPI and proves when a call that
has timed out is not dialled any more.

`COnSipLine::OnMakeCall` hands the number to the device when it first sees a
request, and then waits for an event of the call or for its time-out. The thread
that is in its first part and the threads that pass on events and timers run in
any order, and so do the connection thread and the requests among each other. A
time-out tells TAPI that the request has failed, and leaves the handler that the
core was given in its queue.
-/

import JnTapi.Call.Coherent
import JnTapi.Dialling
import JnTapi.Tapi.CallState

namespace JnTapi

open Library

/-! ### Requests -/

/-- The state of a request -/
inductive RequestState
  /-- `STATE_INITIAL` -/
  | initial
  /-- `STATE_IGNORE` -/
  | ignore
  /-- `STATE_WAITING` -/
  | waiting
  /-- `STATE_COMPLETED` -/
  | completed
deriving DecidableEq, Repr

/-- Where the first part of `OnMakeCall` stands, which only one thread goes through. -/
inductive InitialStage
  | notEntered
  /-- After `EnterState` -/
  | entered
  /-- At the call of `DRV_MakeCall` -/
  | dialling
  /-- In `MakeCallAsync`, which has drawn the id -/
  | drawn (callId : Long)
  | finished
deriving DecidableEq, Repr

/-- How a request has been completed. -/
inductive Completion
  | succeeded
  /-- With `LINEERR_OPERATIONFAILED`, by what has been found -/
  | failed
  /-- With `LINEERR_OPERATIONFAILED`, by its time-out -/
  | timedOut
deriving DecidableEq, Repr

/-- `RTMakeCall` with its call appearance, and the thread in the first part of `OnMakeCall` -/
structure MakeCallRequest where
  /-- The number of the first `DIALINFO`; there is none when it is empty. -/
  number : TString
  state : RequestState
  /-- `m_dwStateTime` -/
  stateTime : Dword
  stage : InitialStage
  /-- The call id of the call appearance -/
  callId : Dword
  /-- What `DRV_MakeCall` has returned -/
  returned : Option Long
  completion : Option Completion
deriving DecidableEq, Repr

/-- `REQUEST_TIMEOUT` -/
def requestTimeout : Dword := 10000

namespace MakeCallRequest

/-- A request that TSP++ dispatches for the first time -/
def new (number : TString) : MakeCallRequest :=
  ⟨number, .initial, 0, .notEntered, 0, none, none⟩

/-- `CTSPIRequest::SetState` -/
def setState (tickCount : Dword) (state : RequestState) (request : MakeCallRequest) :
    MakeCallRequest :=
  { request with state := state, stateTime := tickCount }

/-- `CTSPIConnection::CompleteRequest` with the removal of the request -/
def completeRequest (completion : Completion) (request : MakeCallRequest) : MakeCallRequest :=
  if request.state = .completed then request
  else { request with state := .completed, completion := some completion }

/-- `OnMakeCall` finds an event of its call. -/
def ownEvent (event : Option CallNotification) (request : MakeCallRequest) : Bool :=
  match event with
  | some notification => notification.callId = request.callId
  | none => false

/-- `OnMakeCall` finds that its time is over. -/
def timesOut (event : Option CallNotification) (tickCount : Dword) (request : MakeCallRequest) :
    Bool :=
  request.state = .waiting ∧ ¬ request.ownEvent event ∧
    request.stateTime + requestTimeout < tickCount

/-- `COnSipLine::OnMakeCall`. In the initial state it is the part up to `SetState`, which the
thread goes on with afterwards. -/
def onMakeCall (event : Option CallNotification) (tickCount : Dword)
    (request : MakeCallRequest) : MakeCallRequest :=
  match request.state with
  | .initial =>
    let request := request.setState tickCount .ignore
    if request.number = [] then
      { request.completeRequest .failed with stage := .finished }
    else { request with stage := .entered }
  | .waiting =>
    if request.ownEvent event then
      match event.map CallNotification.tapiCallState with
      | some .idle => request.completeRequest .failed
      | _ => request.completeRequest .succeeded
    else if request.timesOut event tickCount then request.completeRequest .timedOut
    else request
  | _ => request

/-- `DRV_MakeCall` returns, and the first part of `OnMakeCall` ends. -/
def drvReturned (callId : Long) (request : MakeCallRequest) : MakeCallRequest :=
  let request := { request with stage := .finished, returned := some callId }
  if callId.toInt < 0 then request.completeRequest .failed
  else { request with callId := callId }

end MakeCallRequest

/-! ### The line -/

/-- The action of a thread that makes or drops calls, by the place where the connection thread
stands -/
def ConnectionThread.byOther (thread : ConnectionThread) (action : CallAction) : ThreadAction :=
  match thread.control with
  | .initializing _ _ => .init (.call action)
  | _ => .call action

namespace ThreadAction

/-- The action draws the id of a call. -/
def drawsCallId : ThreadAction → Bool
  | .call (.drawCallId _) | .init (.call (.drawCallId _)) => true
  | _ => false

/-- The action adds the handler of a call. -/
def addsCallHandler : ThreadAction → Bool
  | .call (.addCallHandler _ _) | .init (.call (.addCallHandler _ _)) => true
  | _ => false

end ThreadAction

/-- `COnSipLine` with the requests that it has been given, and the connection thread -/
structure MakingLine where
  thread : ConnectionThread
  requests : List MakeCallRequest
deriving DecidableEq, Repr

/-- One step of one of the threads. -/
inductive LineAction
  /-- A step of the connection thread, or of a thread that drops a call -/
  | thread (action : ThreadAction)
  /-- TAPI makes a call. -/
  | makeCall (number : TString)
  /-- `OnMakeCall` is called, with an event or by the interval timer. -/
  | onMakeCall (index : Nat) (event : Option CallNotification) (tickCount : Dword)
  /-- `SetState(STATE_WAITING)` in the first part of `OnMakeCall` -/
  | setWaiting (index : Nat) (tickCount : Dword)
  /-- `DRV_MakeCall` begins: it fails, or draws the id. -/
  | drvMakeCall (index : Nat)
  /-- `MakeCallAsync` adds the handler, and `DRV_MakeCall` returns. -/
  | addStateHandler (index making : Nat) (reading : Reading)

namespace MakingLine

/-- The line when the connection thread begins -/
def new (reading : Reading) (loginInfo : LoginInfo) : MakingLine :=
  ⟨ConnectionThread.new reading loginInfo, []⟩

/-- Another request in the place of the one with the number -/
def withRequest (index : Nat) (request : MakeCallRequest) (line : MakingLine) : MakingLine :=
  { line with requests := line.requests.set index request }

/-- One step of the line; `none` when no thread stands where the step begins. -/
def step (line : MakingLine) : LineAction → Option MakingLine
  | .thread action =>
    -- Calls are made by the requests alone.
    if action.drawsCallId ∨ action.addsCallHandler then none
    else (line.thread.step action).map fun thread => { line with thread := thread }
  | .makeCall number =>
    some { line with requests := line.requests ++ [MakeCallRequest.new number] }
  | .onMakeCall index event tickCount =>
    (line.requests[index]?).map fun request =>
      line.withRequest index (request.onMakeCall event tickCount)
  | .setWaiting index tickCount =>
    match line.requests[index]? with
    | some request =>
      if request.stage = .entered then
        some (line.withRequest index
          { request.setState tickCount .waiting with stage := .dialling })
      else none
    | none => none
  | .drvMakeCall index =>
    match line.requests[index]? with
    | some request =>
      if request.stage = .dialling then
        -- The object is deleted when the connection thread has ended.
        if line.thread.control = .exited then
          some (line.withRequest index (request.drvReturned (-1)))
        else
          (line.thread.step (line.thread.byOther (.drawCallId (Strings.cStr request.number)))).map
            fun thread => MakingLine.withRequest index
              { request with stage := .drawn line.thread.object.xmpp.getUniqueId.1 }
              { line with thread := thread }
      else none
    | none => none
  | .addStateHandler index making reading =>
    match line.requests[index]? with
    | some request =>
      match request.stage with
      | .drawn callId =>
        if line.thread.object.calls.making[making]? =
            some (callId, Strings.cStr request.number) then
          (line.thread.step (line.thread.byOther (.addCallHandler making reading))).map
            fun thread => MakingLine.withRequest index (request.drvReturned callId)
              { line with thread := thread }
        else none
      | _ => none
    | none => none

/-- The call for which the step sends a `create` command, if it sends one -/
def createdCall (line : MakingLine) : LineAction → Option Long
  | .thread action => line.thread.createdCall action
  | _ => none

end MakingLine

/-! ### The calls that wait -/

theorem OnSipXmpp.waiting_arrive (arrival : Arrival) (object : OnSipXmpp) :
    (object.arrive arrival).calls.waiting = object.calls.waiting := by
  have signalled : ∀ (readings : Readings) (event : XmppEvent) (object : OnSipXmpp),
      (object.signalCalls readings event).calls.waiting = object.calls.waiting := by
    intro readings event object
    unfold OnSipXmpp.signalCalls
    split <;> rfl
  cases arrival with
  | event initReadings callReadings event fromConnection =>
    rw [arrive]
    rcases object.signalEvent_cases initReadings callReadings
      { event with context := object.loginContext + event.context } with ⟨-, same⟩ | ⟨-, same⟩
    · rw [same]
      rfl
    · rw [same, signalled]
      rfl
  | workerReply index event => rfl
  | workerMessage event => rfl

theorem OnSipXmpp.callsOnly_waiting : CallsOnly fun object => object.calls.waiting where
  arrive := waiting_arrive
  pollInit _ _ := rfl
  resetConnectLoop _ _ := rfl
  clearEvents _ := rfl
  start _ _ _ := rfl
  asyncShutdown _ := rfl
  cleanup _ := rfl

/-- A step of the thread lets a call wait only by drawing its id. -/
theorem ConnectionThread.waiting_step {thread next : ConnectionThread} {action : ThreadAction}
    (stepped : thread.step action = some next) {callId : Long}
    (waits : callId ∈ next.object.calls.waiting) : callId ∈ thread.object.calls.waiting ∨
      action.drawsCallId = true ∧ callId = thread.object.xmpp.getUniqueId.1 := by
  rcases step_view OnSipXmpp.callsOnly_waiting stepped with
    same | ⟨callAction, object, place, called, same⟩
  · exact Or.inl (same ▸ waits)
  · obtain ⟨-, calls, moves, rfl⟩ := OnSipXmpp.step_call.mp called
    rw [same] at waits
    refine (CallSystem.waiting_step moves waits).imp_right ?_
    rintro ⟨phoneNumber, rfl, drawn⟩
    refine ⟨?_, drawn⟩
    rcases place.elim action_of_pollsCalls And.left with rfl | rfl <;> rfl

/-! ### Requests that have timed out -/

namespace MakeCallRequest

theorem completion_completeRequest {completion : Completion} {request : MakeCallRequest}
    (timedOut : (request.completeRequest completion).completion = some .timedOut) :
    request.completion = some .timedOut ∨ completion = .timedOut := by
  unfold completeRequest at timedOut
  split_ifs at timedOut
  · exact Or.inl timedOut
  · exact Or.inr (Option.some.inj timedOut)

@[simp] theorem returned_completeRequest (completion : Completion) (request : MakeCallRequest) :
    (request.completeRequest completion).returned = request.returned := by
  unfold completeRequest
  split_ifs <;> rfl

@[simp] theorem stage_completeRequest (completion : Completion) (request : MakeCallRequest) :
    (request.completeRequest completion).stage = request.stage := by
  unfold completeRequest
  split_ifs <;> rfl

@[simp] theorem state_completeRequest (completion : Completion) (request : MakeCallRequest) :
    (request.completeRequest completion).state = .completed := by
  unfold completeRequest
  split_ifs with completed
  · exact completed
  · rfl

/-- `DRV_MakeCall` has returned the call of the request, which is not among those that wait. -/
def TakenUp (waiting : List Long) (request : MakeCallRequest) : Prop :=
  ∃ callId ∈ request.returned, callId ∉ waiting

instance (waiting : List Long) (request : MakeCallRequest) : Decidable (request.TakenUp waiting) :=
  haveI := lawfulBEq_long
  Option.decidableExistsMem _

/-- What is known of a request while these calls wait: one that has timed out has been taken up. -/
structure Settled (waiting : List Long) (request : MakeCallRequest) : Prop where
  notEntered : request.state = .initial → request.stage = .notEntered
  notReturned : request.stage ≠ .finished → request.returned = none
  timedOut : request.completion = some .timedOut → request.TakenUp waiting

section settled

variable {waiting : List Long} {request : MakeCallRequest}

theorem settled_new (number : TString) : (new number).Settled waiting :=
  ⟨fun _ => rfl, fun _ => rfl, fun timedOut => by cases timedOut⟩

/-- A request whose first part is not over has not timed out. -/
theorem Settled.not_timedOut (settled : request.Settled waiting)
    (running : request.stage ≠ .finished) : request.completion ≠ some .timedOut := by
  intro timedOut
  obtain ⟨callId, returned, -⟩ := settled.timedOut timedOut
  rw [settled.notReturned running] at returned
  cases returned

theorem Settled.completeRequest (settled : request.Settled waiting) {completion : Completion}
    (taken : completion = .timedOut → request.TakenUp waiting) :
    (request.completeRequest completion).Settled waiting := by
  refine ⟨fun initial => ?_, fun running => ?_, fun timedOut => ?_⟩
  · rw [state_completeRequest] at initial
    cases initial
  · rw [stage_completeRequest] at running
    rw [returned_completeRequest]
    exact settled.notReturned running
  · rw [TakenUp, returned_completeRequest]
    exact (completion_completeRequest timedOut).elim settled.timedOut taken

/-- `OnMakeCall` keeps what is known, unless it times out while the call waits. -/
theorem Settled.onMakeCall (settled : request.Settled waiting)
    {event : Option CallNotification} {tickCount : Dword}
    (taken : request.timesOut event tickCount = true → request.TakenUp waiting) :
    (request.onMakeCall event tickCount).Settled waiting := by
  have failed : ∀ {completion : Completion}, completion = .failed ∨ completion = .succeeded →
      (request.completeRequest completion).Settled waiting := by
    rintro completion (rfl | rfl) <;> exact settled.completeRequest fun timedOut => by cases timedOut
  unfold MakeCallRequest.onMakeCall
  cases state : request.state with
  | initial =>
    have entering := settled.notEntered state
    have none : request.returned = none := settled.notReturned (by simp [entering])
    have running : request.completion ≠ some .timedOut := settled.not_timedOut (by simp [entering])
    dsimp only
    split_ifs
    · refine ⟨fun initial => ?_, fun _ => ?_, fun timedOut => ?_⟩
      · exact absurd ((state_completeRequest .failed _).symm.trans initial) (by decide)
      · exact (returned_completeRequest .failed _).trans none
      · exact absurd ((completion_completeRequest timedOut).resolve_right (by decide)) running
    · exact ⟨fun initial => (nomatch initial), fun _ => none,
        fun timedOut => absurd timedOut running⟩
  | waiting =>
    dsimp only
    split_ifs with own late
    · split
      · exact failed (Or.inl rfl)
      · exact failed (Or.inr rfl)
    · exact settled.completeRequest fun _ => taken late
    · exact settled
  | ignore => exact settled
  | completed => exact settled

theorem Settled.setWaiting (settled : request.Settled waiting) (entered : request.stage = .entered)
    (tickCount : Dword) :
    Settled waiting { request.setState tickCount .waiting with stage := .dialling } :=
  ⟨fun initial => (nomatch initial), fun _ => settled.notReturned (by simp [entered]),
    settled.timedOut⟩

theorem Settled.drawn (settled : request.Settled waiting) (dialling : request.stage = .dialling)
    (callId : Long) : Settled waiting { request with stage := .drawn callId } := by
  refine ⟨fun initial => ?_, fun _ => settled.notReturned (by simp [dialling]), settled.timedOut⟩
  rw [show request.stage = .notEntered from settled.notEntered initial] at dialling
  cases dialling

theorem Settled.drvReturned (settled : request.Settled waiting)
    (running : request.stage ≠ .finished) (entered : request.stage ≠ .notEntered)
    (callId : Long) : (request.drvReturned callId).Settled waiting := by
  have apart := settled.not_timedOut running
  have going : Settled waiting { request with stage := .finished, returned := some callId } :=
    ⟨fun initial => absurd (settled.notEntered initial) entered, fun last => absurd rfl last,
      fun timedOut => absurd timedOut apart⟩
  unfold MakeCallRequest.drvReturned
  dsimp only
  split_ifs
  · exact going.completeRequest fun timedOut => by cases timedOut
  · exact ⟨going.notEntered, going.notReturned, going.timedOut⟩

/-- What is known stays known when fewer calls wait, or a call with another id. -/
theorem Settled.mono (settled : request.Settled waiting) {next : List Long}
    (others : ∀ callId ∈ next, callId ∈ waiting ∨
      (request.completion = some .timedOut → request.returned ≠ some callId)) :
    request.Settled next := by
  refine ⟨settled.notEntered, settled.notReturned, fun timedOut => ?_⟩
  obtain ⟨callId, returned, settles⟩ := settled.timedOut timedOut
  refine ⟨callId, returned, fun waits => ?_⟩
  exact (others callId waits).elim settles fun other => other timedOut returned

end settled

end MakeCallRequest

namespace MakingLine

/-- A request times out only when its call has been taken up, and no id is drawn that is the one of
a request that has timed out. -/
def TakenBefore (line : MakingLine) : LineAction → Prop
  | .onMakeCall index event tickCount => ∀ request ∈ line.requests[index]?,
      request.timesOut event tickCount = true →
        request.TakenUp line.thread.object.calls.waiting
  | .drvMakeCall _ => ∀ request ∈ line.requests, request.completion = some .timedOut →
      request.returned ≠ some line.thread.object.xmpp.getUniqueId.1
  | _ => True

instance (line : MakingLine) (action : LineAction) : Decidable (line.TakenBefore action) := by
  unfold TakenBefore
  cases action with
  | drvMakeCall index => exact List.decidableBAll _ _
  | _ => infer_instance

/-- Everything is known of every request. -/
def Settled (line : MakingLine) : Prop :=
  ∀ request ∈ line.requests, request.Settled line.thread.object.calls.waiting

theorem Settled.withRequest {line : MakingLine} (settled : line.Settled) {index : Nat}
    {request : MakeCallRequest} (known : request.Settled line.thread.object.calls.waiting) :
    (line.withRequest index request).Settled := by
  intro other member
  rcases List.mem_or_eq_of_mem_set member with before | rfl
  · exact settled other before
  · exact known

/-- The connection thread goes on without the drawing of an id. -/
theorem Settled.thread {line : MakingLine} (settled : line.Settled) {action : ThreadAction}
    {thread : ConnectionThread} (stepped : line.thread.step action = some thread)
    (others : ∀ request ∈ line.requests, action.drawsCallId = true →
      request.completion = some .timedOut →
        request.returned ≠ some line.thread.object.xmpp.getUniqueId.1) :
    MakingLine.Settled { line with thread := thread } := by
  intro request member
  refine (settled request member).mono fun callId waits => ?_
  refine (ConnectionThread.waiting_step stepped waits).imp_right ?_
  rintro ⟨draws, rfl⟩
  exact others request member draws

/-- Every step keeps what is known, when no request times out before its call is taken up. -/
theorem Settled.step {line next : MakingLine} {action : LineAction} (settled : line.Settled)
    (taken : line.TakenBefore action) (stepped : line.step action = some next) :
    next.Settled := by
  cases action with
  | thread action =>
    rw [MakingLine.step] at stepped
    split_ifs at stepped with makes
    obtain ⟨thread, moved, rfl⟩ := Option.map_eq_some_iff.mp stepped
    exact settled.thread moved fun _ _ draws => absurd (Or.inl draws) makes
  | makeCall number =>
    obtain rfl := Option.some.inj stepped
    intro request member
    rcases List.mem_append.mp member with before | new
    · exact settled request before
    · rw [List.mem_singleton.mp new]
      exact MakeCallRequest.settled_new number
  | onMakeCall index event tickCount =>
    obtain ⟨request, found, rfl⟩ := Option.map_eq_some_iff.mp stepped
    exact settled.withRequest ((settled request (List.mem_of_getElem? found)).onMakeCall
      (taken request found))
  | setWaiting index tickCount =>
    rw [MakingLine.step] at stepped
    split at stepped
    case h_1 request found =>
      split_ifs at stepped with entered
      obtain rfl := Option.some.inj stepped
      exact settled.withRequest
        ((settled request (List.mem_of_getElem? found)).setWaiting entered tickCount)
    case h_2 => cases stepped
  | drvMakeCall index =>
    rw [MakingLine.step] at stepped
    split at stepped
    case h_1 request found =>
      have known := settled request (List.mem_of_getElem? found)
      split_ifs at stepped with dialling exited
      · obtain rfl := Option.some.inj stepped
        exact settled.withRequest
          (known.drvReturned (by simp [dialling]) (by simp [dialling]) (-1))
      · obtain ⟨thread, moved, rfl⟩ := Option.map_eq_some_iff.mp stepped
        have moves := settled.thread moved fun request member _ => taken request member
        exact moves.withRequest
          ((moves request (List.mem_of_getElem? found)).drawn dialling _)
    case h_2 => cases stepped
  | addStateHandler index making reading =>
    rw [MakingLine.step] at stepped
    split at stepped
    case h_1 request found =>
      split at stepped
      case h_1 callId drawn =>
        split_ifs at stepped with mine
        obtain ⟨thread, moved, rfl⟩ := Option.map_eq_some_iff.mp stepped
        have moves := settled.thread moved fun _ _ draws => by
          unfold ConnectionThread.byOther at draws
          split at draws <;> cases draws
        exact moves.withRequest ((moves request (List.mem_of_getElem? found)).drvReturned
          (by simp [drawn]) (by simp [drawn]) callId)
      case h_2 => cases stepped
    case h_2 => cases stepped

/-- A `create` command is sent for a call that waits. -/
theorem waiting_of_createdCall {line : MakingLine} {action : LineAction} {callId : Long}
    (created : line.createdCall action = some callId) :
    callId ∈ line.thread.object.calls.waiting := by
  cases action with
  | thread action =>
    obtain ⟨readings, request, rest, -, pending, rfl⟩ := ConnectionThread.of_createdCall created
    rw [CallSystem.waiting, pending]
    exact List.mem_cons_self
  | _ => cases created

/-- Every `create` command is sent for a call, by the connection thread. -/
theorem createdCall_of_creates {line next : MakingLine} {action : LineAction}
    (stepped : line.step action = some next)
    (creates : next.thread.object.xmpp.creates ≠ line.thread.object.xmpp.creates) :
    ∃ callId, line.createdCall action = some callId := by
  have silent : ∀ {callAction : CallAction} {thread : ConnectionThread},
      (∀ readings, callAction ≠ .handleRequest readings) →
      line.thread.step (line.thread.byOther callAction) = some thread →
      thread.object.xmpp.creates = line.thread.object.xmpp.creates := by
    intro callAction thread other moved
    by_contra changes
    obtain ⟨callId, created⟩ := ConnectionThread.createdCall_of_creates moved changes
    obtain ⟨readings, -, -, polls, -⟩ := ConnectionThread.of_createdCall created
    have action := ConnectionThread.action_of_pollsCalls polls
    unfold ConnectionThread.byOther at action
    split at action
    · rcases action with same | same <;> cases same
      exact other readings rfl
    · rcases action with same | same <;> cases same
      exact other readings rfl
  cases action with
  | thread action =>
    rw [MakingLine.step] at stepped
    split_ifs at stepped
    obtain ⟨thread, moved, rfl⟩ := Option.map_eq_some_iff.mp stepped
    exact ConnectionThread.createdCall_of_creates moved creates
  | makeCall number =>
    obtain rfl := Option.some.inj stepped
    exact absurd rfl creates
  | onMakeCall index event tickCount =>
    obtain ⟨request, found, rfl⟩ := Option.map_eq_some_iff.mp stepped
    exact absurd rfl creates
  | setWaiting index tickCount =>
    rw [MakingLine.step] at stepped
    split at stepped
    case h_1 request found =>
      split_ifs at stepped
      obtain rfl := Option.some.inj stepped
      exact absurd rfl creates
    case h_2 => cases stepped
  | drvMakeCall index =>
    rw [MakingLine.step] at stepped
    split at stepped
    case h_1 request found =>
      split_ifs at stepped
      · obtain rfl := Option.some.inj stepped
        exact absurd rfl creates
      · obtain ⟨thread, moved, rfl⟩ := Option.map_eq_some_iff.mp stepped
        exact absurd (silent (by simp) moved) creates
    case h_2 => cases stepped
  | addStateHandler index making reading =>
    rw [MakingLine.step] at stepped
    split at stepped
    case h_1 request found =>
      split at stepped
      case h_1 callId drawn =>
        split_ifs at stepped
        obtain ⟨thread, moved, rfl⟩ := Option.map_eq_some_iff.mp stepped
        exact absurd (silent (by simp) moved) creates
      case h_2 => cases stepped
    case h_2 => cases stepped

/-- In a run in which every request that times out has been taken up before, no `create` command is
sent for the call of a request that has timed out. -/
theorem not_created_of_timedOut {reading : Reading} {loginInfo : LoginInfo}
    {actions : List LineAction} {line next : MakingLine} {action : LineAction}
    (reached : run MakingLine.step actions (MakingLine.new reading loginInfo) = some line)
    (taken : Along MakingLine.step TakenBefore actions (MakingLine.new reading loginInfo))
    (stepped : line.step action = some next)
    (creates : next.thread.object.xmpp.creates ≠ line.thread.object.xmpp.creates) :
    ∃ callId, line.createdCall action = some callId ∧
      ∀ request ∈ line.requests, request.completion = some .timedOut →
        request.returned ≠ some callId := by
  have settled : line.Settled := by
    refine run_invariant_along ?_ reached taken ?_
    · exact fun middle action next allowed stepped known => Settled.step known allowed stepped
    · exact fun request member => absurd member List.not_mem_nil
  obtain ⟨callId, created⟩ := createdCall_of_creates stepped creates
  refine ⟨callId, created, fun request member timedOut returned => ?_⟩
  obtain ⟨own, ownReturned, gone⟩ := (settled request member).timedOut timedOut
  obtain rfl := Option.some.inj (ownReturned.symm.trans returned)
  exact gone (waiting_of_createdCall created)

end MakingLine

/-! ### Concrete runs -/

namespace Example

/-- TAPI makes a call, and `OnMakeCall` hands it to the device. -/
def makeCallAt (index tick : Nat) : List LineAction :=
  [.makeCall "123".toList, .onMakeCall index none (BitVec.ofNat 32 tick),
    .setWaiting index (BitVec.ofNat 32 tick), .drvMakeCall index,
    .addStateHandler index 0 (reading tick)]

/-- The interval timer looks at the request. -/
def timerAt (index tick : Nat) : LineAction := .onMakeCall index none (BitVec.ofNat 32 tick)

/-- The thread connects and takes the requests in its first poll. -/
def connectAndTake (tick : Nat) : List LineAction :=
  ([.init (.connected true), .init (.checkStop false (reading tick)),
    .init (.checkTime (reading tick) (reading tick) (.still (reading tick)) (reading tick)),
    .init (.call .testRequests), .init (.call .takeRequests)] : List ThreadAction).map .thread

def handleRequestAt (tick : Nat) : LineAction :=
  .thread (.init (.call (.handleRequest ⟨reading tick, reading tick⟩)))

/-- Two calls are made, and the first is dialled. Its request times out all the same. -/
def timeOutAfterDial : List LineAction :=
  makeCallAt 0 100 ++ makeCallAt 1 200 ++ connectAndTake 300 ++
    [handleRequestAt 300, timerAt 0 10101]

/-- A call is made just before the connection is lost. Its request times out in the wait after the
`Poll` that fails, and the thread connects again. -/
def timeOutInWait : List LineAction :=
  (threadLogIn [] ++ .checkStop false (reading 1000) :: pollLoop 1010).map .thread ++
    makeCallAt 0 1100 ++
    [.thread (.received .connIoError), timerAt 0 11101,
      .thread (.waited false (reading 11200)), .thread (.checkStop false (reading 11200))] ++
    connectAndTake 11500

end Example

namespace MakingLine

theorem not_created_of_timedOut_timeOutAfterDial :
    ∃ line, run MakingLine.step Example.timeOutAfterDial
        (MakingLine.new (Example.reading 0) Example.login) = some line ∧
      line.requests.map MakeCallRequest.completion = [some .timedOut, none] ∧
      ∃ callId, line.createdCall (Example.handleRequestAt 300) = some callId ∧
        ∀ request ∈ line.requests, request.completion = some .timedOut →
          request.returned ≠ some callId := by
  have reached : run MakingLine.step Example.timeOutAfterDial
    (MakingLine.new (Example.reading 0) Example.login) = some _ := rfl
  refine ⟨_, reached, by decide, ?_⟩
  exact @not_created_of_timedOut _ _ _ _ _ (Example.handleRequestAt 300) reached
    (by decide +kernel) rfl (by decide)

/-- A call may be dialled after its request has timed out. -/
theorem created_timeOutInWait :
    ¬ ∀ (reading : Reading) (loginInfo : LoginInfo) (actions : List LineAction)
      (action : LineAction) (line next : MakingLine) (callId : Long),
      run MakingLine.step actions (MakingLine.new reading loginInfo) = some line →
      line.step action = some next →
      next.thread.object.xmpp.creates ≠ line.thread.object.xmpp.creates →
      line.createdCall action = some callId →
      ∀ request ∈ line.requests, request.completion = some .timedOut →
        request.returned ≠ some callId := by
  intro claim
  have reached : run MakingLine.step Example.timeOutInWait
    (MakingLine.new (Example.reading 0) Example.login) = some _ := rfl
  exact claim _ _ _ (Example.handleRequestAt 11500) _ _ 2 reached rfl (by decide) rfl _
    List.mem_cons_self rfl rfl

end MakingLine

end JnTapi
