/-
This file proves when the events of a call that TAPI makes find their call
appearance.

`OnMakeCall` learns the id of the call from `DRV_MakeCall` and stores it in the
call appearance afterwards. The handler of the call is in the core before that,
so the connection thread may take it up, and the pool may dispatch its first
event, while the call appearance has no id yet.
-/

import JnTapi.Tapi.MakeCall
import JnTapi.Tapi.Unsolicited

namespace JnTapi

open Library

/-! ### The request and its call appearance -/

namespace MakeCallRequest

/-- `OnMakeCall` takes what it is given, and lets nothing fall through to `UnsolicitedEvent`. -/
def takes (event : Option CallNotification) (request : MakeCallRequest) : Bool :=
  match request.state with
  | .initial => true
  | .waiting => request.ownEvent event
  | _ => false

/-- The id that `MakeCallAsync` has drawn -/
def drawn (request : MakeCallRequest) : Option Long :=
  match request.stage with
  | .drawn callId => some callId
  | _ => request.returned

/-- `DRV_MakeCall` has returned the id, `SetCallID` has stored it, and the request has not failed. -/
structure Stored (callId : Long) (request : MakeCallRequest) : Prop where
  returned : request.returned = some callId
  succeeded : 0 ≤ callId.toInt
  notFailed : request.completion ≠ some .failed
  inTime : request.completion ≠ some .timedOut

instance (callId : Long) (request : MakeCallRequest) : Decidable (request.Stored callId) :=
  decidable_of_iff (request.returned = some callId ∧ 0 ≤ callId.toInt ∧
      request.completion ≠ some .failed ∧ request.completion ≠ some .timedOut)
    ⟨fun stored => ⟨stored.1, stored.2.1, stored.2.2.1, stored.2.2.2⟩,
      fun stored => ⟨stored.1, stored.2, stored.3, stored.4⟩⟩

end MakeCallRequest

namespace Line

/-- The line with a change of this call appearance -/
def updateObject (handle : Nat) (change : CallAppearance → CallAppearance) (line : Line) : Line :=
  { line with appearances := updateFirst (fun call => call.handle = handle) change line.appearances }

/-- `RTMakeCall::Failed` removes a call appearance that TAPI has not been told of. -/
def makeCallFailed (handle : Nat) (line : Line) : Line :=
  { line with appearances := line.appearances.filter fun call => call.handle ≠ handle ∨ call.known }

/-- The call appearance has the id. -/
def Holds (handle : Nat) (callId : Dword) (line : Line) : Prop :=
  ∃ call ∈ line.appearances, call.handle = handle ∧ call.callId = callId

end Line

/-- The line with the request to make a call -/
structure DiallingLine where
  tapi : TapiLine
  request : MakeCallRequest
  /-- The call appearance of the request -/
  handle : Nat
  /-- `MakeCallAsync` has added the handler. -/
  added : Bool
deriving DecidableEq, Repr

/-- One step of one of the threads. -/
inductive DiallingAction
  /-- A step of the connection thread, or of a thread that makes or drops other calls -/
  | thread (action : ThreadAction)
  /-- `ReceiveData` is called with the next event. -/
  | receiveData (tickCount : Dword)
  /-- `ReceiveData` is called without an event, when the request is added or by the interval
  timer. -/
  | onTimer (tickCount : Dword)
  /-- `SetState(STATE_WAITING)` in the first part of `OnMakeCall` -/
  | setWaiting (tickCount : Dword)
  /-- `DRV_MakeCall` begins: it fails, or draws the id. -/
  | drvMakeCall
  /-- `MakeCallAsync` adds the handler. -/
  | addStateHandler (making : Nat) (reading : Reading)
  /-- `DRV_MakeCall` returns, and `SetCallID` stores the id. -/
  | setCallId

/-- TAPI makes a call: `CTSPILineConnection::MakeCall`, up to the dispatch of the request -/
def TapiLine.makeCall (number : TString) (tapi : TapiLine) : DiallingLine :=
  { tapi := { tapi with
      line := tapi.line.addCall
        { CallAppearance.new tapi.line.created with
          calledId := number, origin := .outbound, reason := .direct } }
    request := MakeCallRequest.new number
    handle := tapi.line.created
    added := false }

namespace DiallingLine

/-- What the completion of the request does to its call appearance: the success gives it the state
of the event, and `RTMakeCall::Failed` follows a failure. -/
def completed (event : Option CallNotification) (completion : Option Completion)
    (system : DiallingLine) : Line :=
  match completion, event with
  | some .succeeded, some event =>
    system.tapi.line.updateObject system.handle (CallAppearance.setCallState event.tapiCallState)
  | some .failed, _ | some .timedOut, _ => system.tapi.line.makeCallFailed system.handle
  | _, _ => system.tapi.line

/-- The request goes on, with what that does to its call appearance. -/
def withRequest (event : Option CallNotification) (request : MakeCallRequest)
    (system : DiallingLine) : DiallingLine :=
  { system with
    tapi := { system.tapi with
      line := if request.completion = system.request.completion then system.tapi.line
        else system.completed event request.completion }
    request := request }

/-- `CTSPIConnection::ReceiveData`: what the request does not take goes to `UnsolicitedEvent`. With
an event, the result is false where the event is of a new call that is not recognized. -/
def receiveData (event : Option CallNotification) (tickCount : Dword) (system : DiallingLine) :
    Bool × DiallingLine :=
  let next := system.withRequest event (system.request.onMakeCall event tickCount)
  if system.request.takes event then (true, next)
  else
    match event with
    | some event =>
      let (recognized, line) := next.tapi.line.unsolicitedCallEvent event
      (recognized, { next with tapi := { next.tapi with line := line } })
    | none => (false, next)

/-- `DRV_MakeCall` returns, and `SetCallID` stores the id that it has returned. -/
def drvReturned (callId : Long) (system : DiallingLine) : DiallingLine :=
  let next := system.withRequest none (system.request.drvReturned callId)
  if callId.toInt < 0 then next
  else
    { next with tapi := { next.tapi with
      line := next.tapi.line.updateObject system.handle fun call => { call with callId := callId } } }

/-- One step of the line; `none` when no thread stands where the step begins. -/
def step (system : DiallingLine) : DiallingAction → Option DiallingLine
  | .thread action =>
    (system.tapi.step (.thread action)).map fun tapi => { system with tapi := tapi }
  | .receiveData tickCount =>
    match system.tapi.queued with
    | event :: rest =>
      some ({ system with tapi := { system.tapi with queued := rest } }.receiveData (some event)
        tickCount).2
    | [] => none
  | .onTimer tickCount => some (system.receiveData none tickCount).2
  | .setWaiting tickCount =>
    if system.request.stage = .entered then
      some { system with
        request := { system.request.setState tickCount .waiting with stage := .dialling } }
    else none
  | .drvMakeCall =>
    if system.request.stage = .dialling then
      if system.tapi.thread.control = .exited then
        some (system.drvReturned (-1))
      else
        (system.tapi.step (.thread (system.tapi.thread.byOther
          (.drawCallId (Strings.cStr system.request.number))))).map fun tapi =>
            { system with
              tapi := tapi
              request := { system.request with
                stage := .drawn system.tapi.thread.object.xmpp.getUniqueId.1 } }
    else none
  | .addStateHandler making reading =>
    match system.request.stage with
    | .drawn callId =>
      if ¬ system.added ∧ system.tapi.thread.object.calls.making[making]? =
          some (callId, Strings.cStr system.request.number) then
        (system.tapi.step (.thread (system.tapi.thread.byOther
          (.addCallHandler making reading)))).map fun tapi =>
            { system with tapi := tapi, added := true }
      else none
    | _ => none
  | .setCallId =>
    match system.request.stage with
    | .drawn callId => if system.added then some (system.drvReturned callId) else none
    | _ => none

/-- The event that the step passes to `ReceiveData` -/
def received (system : DiallingLine) : DiallingAction → List CallNotification
  | .receiveData _ => system.tapi.queued.take 1
  | _ => []

/-- The event that the step ends with as one of a new call that is not recognized -/
def unrecognized (system : DiallingLine) (action : DiallingAction) : List CallNotification :=
  (system.received action).filter fun event =>
    match action with
    | .receiveData tickCount => !(system.receiveData (some event) tickCount).1
    | _ => false

/-- When an event of the call that is not IDLE is dispatched, its id has been stored, and the
request has not failed. -/
def StoredFirst (system : DiallingLine) (action : DiallingAction) : Prop :=
  ∀ event ∈ system.received action, system.request.drawn = some event.callId →
    event.tapiCallState ≠ .idle → system.request.Stored event.callId

instance (system : DiallingLine) (action : DiallingAction) :
    Decidable (system.StoredFirst action) :=
  inferInstanceAs (Decidable (∀ event ∈ system.received action, _))

end DiallingLine

/-! ### The call appearance keeps the id -/

namespace Line

theorem holds_iff {handle : Nat} {callId : Dword} {line : Line} :
    line.Holds handle callId ↔ (handle, callId) ∈
      line.appearances.map fun call => (call.handle, call.callId) := by
  rw [Holds, List.mem_map]
  simp only [Prod.mk.injEq]

variable {handle : Nat} {callId : Dword} {line : Line}

/-- A change of a call appearance that keeps its id -/
theorem Holds.updateObject (holds : line.Holds handle callId) (object : Nat)
    {change : CallAppearance → CallAppearance}
    (keeps : ∀ call, (change call).handle = call.handle ∧ (change call).callId = call.callId) :
    (line.updateObject object change).Holds handle callId := by
  rw [holds_iff] at holds ⊢
  rw [Line.updateObject, map_updateFirst fun call => Prod.ext (keeps call).1 (keeps call).2]
  exact holds

theorem find_updateObject (handle : Nat) {change : CallAppearance → CallAppearance}
    (keeps : ∀ call, (change call).handle = call.handle) (line : Line) :
    (line.updateObject handle change).appearances.find? (fun call => call.handle = handle) =
      (line.appearances.find? fun call => call.handle = handle).map change :=
  find_updateFirst (fun call => by rw [keeps]) line.appearances

/-- `SetCallID` -/
theorem Holds.setCallId (holds : line.Holds handle callId) (stored : Dword) :
    (line.updateObject handle fun call => { call with callId := stored }).Holds handle stored := by
  obtain ⟨call, member, own, -⟩ := holds
  have found : (line.appearances.find? fun call => call.handle = handle).isSome = true :=
    List.find?_isSome.mpr ⟨call, member, decide_eq_true own⟩
  obtain ⟨first, finds⟩ := Option.isSome_iff_exists.mp found
  have keeps : ∀ call : CallAppearance, ({ call with callId := stored } : CallAppearance).handle =
      call.handle := fun call => rfl
  have changed := find_updateObject handle keeps line
  rw [finds] at changed
  exact ⟨_, List.mem_of_find?_eq_some changed, of_decide_eq_true (List.find?_some finds :), rfl⟩

theorem Holds.unsolicitedCallEvent (holds : line.Holds handle callId)
    (event : CallNotification) : (line.unsolicitedCallEvent event).2.Holds handle callId := by
  have added : ∀ call, (line.addCall call).Holds handle callId := by
    intro call
    obtain ⟨other, member, same⟩ := holds
    exact ⟨other, List.mem_append_left _ member, same⟩
  unfold Line.unsolicitedCallEvent
  split
  · split
    · exact added _
    · exact added _
    · exact holds
    · exact holds
  · rw [holds_iff] at holds ⊢
    rw [updateCall, map_updateFirst fun call => Prod.ext (CallAppearance.handle_activeCall event call)
      (CallAppearance.callId_activeCall event call)]
    exact holds

/-- `FindCallByCallID` finds a call appearance with the id. -/
theorem Holds.find (holds : line.Holds handle callId) :
    ∃ call, line.findCallByCallId callId = some call := by
  obtain ⟨call, member, -, own⟩ := holds
  exact Option.isSome_iff_exists.mp (List.find?_isSome.mpr ⟨call, member, decide_eq_true own⟩)

end Line

namespace MakeCallRequest

/-- The request has not failed. -/
def Stands (request : MakeCallRequest) : Prop :=
  request.completion ≠ some .failed ∧ request.completion ≠ some .timedOut

@[simp] theorem callId_completeRequest (completion : Completion) (request : MakeCallRequest) :
    (request.completeRequest completion).callId = request.callId := by
  unfold completeRequest
  split_ifs <;> rfl

/-- `OnMakeCall` leaves the call id and what `DRV_MakeCall` has returned. -/
theorem ids_onMakeCall (event : Option CallNotification) (tickCount : Dword)
    (request : MakeCallRequest) :
    (request.onMakeCall event tickCount).callId = request.callId ∧
      (request.onMakeCall event tickCount).returned = request.returned := by
  unfold onMakeCall
  split
  · dsimp only
    split_ifs
    · exact ⟨callId_completeRequest _ _, returned_completeRequest _ _⟩
    · exact ⟨rfl, rfl⟩
  · split_ifs
    · split
      · exact ⟨callId_completeRequest _ _, returned_completeRequest _ _⟩
      · exact ⟨callId_completeRequest _ _, returned_completeRequest _ _⟩
    · exact ⟨callId_completeRequest _ _, returned_completeRequest _ _⟩
    · exact ⟨rfl, rfl⟩
  · exact ⟨rfl, rfl⟩

/-- The request is not completed before its first part waits for the device. -/
structure Staged (request : MakeCallRequest) : Prop where
  entered : request.stage = .entered → request.state = .ignore
  completed : request.completion ≠ none → request.state = .completed

theorem staged_new (number : TString) : (new number).Staged :=
  ⟨fun entered => (nomatch entered), fun completed => absurd rfl completed⟩

section staged

variable {request : MakeCallRequest}

theorem Staged.none_of_state (staged : request.Staged) (running : request.state ≠ .completed) :
    request.completion = none :=
  not_not.mp fun completed => running (staged.completed completed)

theorem staged_completeRequest (apart : request.stage ≠ .entered) (completion : Completion) :
    (request.completeRequest completion).Staged := by
  refine ⟨fun entered => absurd ?_ apart, fun _ => state_completeRequest completion request⟩
  rwa [stage_completeRequest] at entered

theorem Staged.onMakeCall (staged : request.Staged) (event : Option CallNotification)
    (tickCount : Dword) : (request.onMakeCall event tickCount).Staged := by
  unfold MakeCallRequest.onMakeCall
  cases state : request.state with
  | initial =>
    have fresh := staged.none_of_state (by simp [state])
    dsimp only
    split_ifs
    · exact ⟨fun entered => (nomatch entered), fun _ => state_completeRequest _ _⟩
    · exact ⟨fun _ => rfl, fun completed => absurd fresh completed⟩
  | waiting =>
    have apart : request.stage ≠ .entered := fun entered => by
      rw [staged.entered entered] at state
      cases state
    dsimp only
    split_ifs
    · split <;> exact staged_completeRequest apart _
    · exact staged_completeRequest apart _
    · exact staged
  | ignore => exact staged
  | completed => exact staged

theorem Staged.drvReturned (staged : request.Staged) (callId : Long) :
    (request.drvReturned callId).Staged := by
  have finished : Staged { request with stage := .finished, returned := some callId } :=
    ⟨fun entered => (nomatch entered), staged.completed⟩
  unfold MakeCallRequest.drvReturned
  dsimp only
  split_ifs
  · exact staged_completeRequest (by simp) _
  · exact ⟨finished.entered, finished.completed⟩

/-- A request that has been completed stays as it is completed. -/
theorem Staged.completion_onMakeCall (staged : request.Staged)
    (event : Option CallNotification) (tickCount : Dword) :
    request.completion = none ∨
      (request.onMakeCall event tickCount).completion = request.completion := by
  by_cases running : request.completion = none
  · exact Or.inl running
  · right
    rw [MakeCallRequest.onMakeCall, staged.completed running]

end staged

end MakeCallRequest

namespace DiallingLine

/-- As long as the request stands, its call appearance is on the line with the call id of the
request, which is the one that `DRV_MakeCall` has returned. -/
structure Tracks (system : DiallingLine) : Prop where
  staged : system.request.Staged
  holds : system.request.Stands → system.tapi.line.Holds system.handle system.request.callId
  stored : ∀ callId, system.request.returned = some callId → 0 ≤ callId.toInt →
    system.request.callId = callId

section tracks

variable {system : DiallingLine}

/-- The connection thread and the first part of `OnMakeCall` go on. -/
theorem Tracks.goesOn (tracks : system.Tracks) {tapi : TapiLine} {request : MakeCallRequest}
    (line : tapi.line = system.tapi.line) (staged : request.Staged)
    (callId : request.callId = system.request.callId)
    (returned : request.returned = system.request.returned)
    (completion : request.completion = system.request.completion) (added : Bool) :
    Tracks { system with tapi := tapi, request := request, added := added } := by
  refine ⟨staged, fun stands => ?_, ?_⟩
  · show tapi.line.Holds system.handle request.callId
    rw [line, callId]
    refine tracks.holds ?_
    rw [MakeCallRequest.Stands, ← completion]
    exact stands
  · show ∀ callId, request.returned = some callId → 0 ≤ callId.toInt → request.callId = callId
    rw [callId, returned]
    exact tracks.stored

/-- The completion of the request leaves the call id. -/
theorem Tracks.holds_withRequest (tracks : system.Tracks) {request : MakeCallRequest}
    (event : Option CallNotification) (stands : request.Stands)
    (fresh : system.request.completion = none ∨ request.completion = system.request.completion) :
    (system.withRequest event request).tapi.line.Holds system.handle system.request.callId := by
  have before : system.request.Stands := by
    rcases fresh with none | same
    · simp [MakeCallRequest.Stands, none]
    · rw [MakeCallRequest.Stands, ← same]
      exact stands
  have holds := tracks.holds before
  show Line.Holds system.handle system.request.callId (if request.completion =
    system.request.completion then system.tapi.line else system.completed event request.completion)
  split_ifs
  · exact holds
  · unfold completed
    split
    · exact holds.updateObject system.handle (by simp)
    · rename_i failed
      exact absurd failed stands.1
    · rename_i late
      exact absurd late stands.2
    · exact holds

theorem Tracks.receiveData (tracks : system.Tracks) (event : Option CallNotification)
    (tickCount : Dword) : (system.receiveData event tickCount).2.Tracks := by
  obtain ⟨callId, returned⟩ := system.request.ids_onMakeCall event tickCount
  have staged := tracks.staged.onMakeCall event tickCount
  have stored : ∀ callId,
      (system.request.onMakeCall event tickCount).returned = some callId → 0 ≤ callId.toInt →
        (system.request.onMakeCall event tickCount).callId = callId := by
    rw [callId, returned]
    exact tracks.stored
  have holds : (system.request.onMakeCall event tickCount).Stands →
      (system.withRequest event (system.request.onMakeCall event tickCount)).tapi.line.Holds
        system.handle (system.request.onMakeCall event tickCount).callId := by
    intro stands
    rw [callId]
    exact tracks.holds_withRequest event stands
      (tracks.staged.completion_onMakeCall event tickCount)
  unfold DiallingLine.receiveData
  dsimp only
  split_ifs
  · exact ⟨staged, holds, stored⟩
  · cases event with
    | none => exact ⟨staged, holds, stored⟩
    | some event => exact ⟨staged, fun stands => (holds stands).unsolicitedCallEvent event, stored⟩

theorem Tracks.drvReturned (tracks : system.Tracks) (callId : Long) :
    (system.drvReturned callId).Tracks := by
  have staged := tracks.staged.drvReturned callId
  unfold DiallingLine.drvReturned
  dsimp only
  split_ifs with negative
  · have result : system.request.drvReturned callId = MakeCallRequest.completeRequest .failed
        { system.request with stage := .finished, returned := some callId } := by
      unfold MakeCallRequest.drvReturned
      exact if_pos negative
    refine ⟨staged, fun stands => ?_, fun other gave positive => ?_⟩
    · show Line.Holds system.handle (system.request.drvReturned callId).callId _
      have fresh : system.request.completion = none ∨
          (system.request.drvReturned callId).completion = system.request.completion := by
        by_cases running : system.request.completion = none
        · exact Or.inl running
        · rw [result, MakeCallRequest.completeRequest, if_pos (tracks.staged.completed running)]
          exact Or.inr rfl
      have holds := tracks.holds_withRequest none stands fresh
      rw [show (system.request.drvReturned callId).callId = system.request.callId by simp [result]]
      exact holds
    · have same : some callId = some other := by
        rw [← gave]
        show _ = (system.request.drvReturned callId).returned
        simp [result]
      obtain rfl := Option.some.inj same
      omega
  · have result : system.request.drvReturned callId =
        { system.request with stage := .finished, returned := some callId, callId := callId } := by
      unfold MakeCallRequest.drvReturned
      exact if_neg negative
    refine ⟨staged, fun stands => ?_, fun other gave positive => ?_⟩
    · show Line.Holds system.handle (system.request.drvReturned callId).callId _
      have same : (system.request.drvReturned callId).completion = system.request.completion := by
        rw [result]
      have holds := tracks.holds_withRequest none stands (Or.inr same)
      rw [show (system.request.drvReturned callId).callId = callId by rw [result]]
      exact holds.setCallId callId
    · show (system.request.drvReturned callId).callId = other
      have same : (system.request.drvReturned callId).returned = some other := gave
      rw [result] at same ⊢
      exact Option.some.inj same

/-- Every step keeps the call appearance and its id. -/
theorem Tracks.step {next : DiallingLine} {action : DiallingAction} (tracks : system.Tracks)
    (stepped : system.step action = some next) : next.Tracks := by
  have goesOn : ∀ {threadAction : ThreadAction} {tapi : TapiLine} (request : MakeCallRequest)
      (added : Bool), system.tapi.step (.thread threadAction) = some tapi → request.Staged →
      request.callId = system.request.callId → request.returned = system.request.returned →
      request.completion = system.request.completion →
      Tracks { system with tapi := tapi, request := request, added := added } := by
    intro threadAction tapi request added moved staged callId returned completion
    obtain ⟨thread, -, rfl⟩ := Option.map_eq_some_iff.mp moved
    refine tracks.goesOn ?_ staged callId returned completion added
    rfl
  cases action with
  | thread action =>
    obtain ⟨tapi, moved, rfl⟩ := Option.map_eq_some_iff.mp stepped
    exact goesOn system.request system.added moved tracks.staged rfl rfl rfl
  | receiveData tickCount =>
    rw [DiallingLine.step] at stepped
    split at stepped
    case h_1 event rest queued =>
      obtain rfl := Option.some.inj stepped
      refine Tracks.receiveData ?_ (some event) tickCount
      exact ⟨tracks.staged, tracks.holds, tracks.stored⟩
    case h_2 => cases stepped
  | onTimer tickCount =>
    obtain rfl := Option.some.inj stepped
    exact tracks.receiveData none tickCount
  | setWaiting tickCount =>
    rw [DiallingLine.step] at stepped
    split_ifs at stepped with entered
    obtain rfl := Option.some.inj stepped
    have fresh := tracks.staged.none_of_state (by simp [tracks.staged.entered entered])
    have staged : MakeCallRequest.Staged
        { system.request.setState tickCount .waiting with stage := .dialling } :=
      ⟨fun entered => (nomatch entered), fun completed => absurd fresh completed⟩
    exact tracks.goesOn rfl staged rfl rfl rfl system.added
  | drvMakeCall =>
    rw [DiallingLine.step] at stepped
    split_ifs at stepped
    · obtain rfl := Option.some.inj stepped
      exact tracks.drvReturned (-1)
    · obtain ⟨tapi, moved, rfl⟩ := Option.map_eq_some_iff.mp stepped
      refine goesOn _ system.added moved ?_ rfl rfl rfl
      exact ⟨fun entered => (nomatch entered), tracks.staged.completed⟩
  | addStateHandler making reading =>
    rw [DiallingLine.step] at stepped
    split at stepped
    · split_ifs at stepped
      obtain ⟨tapi, moved, rfl⟩ := Option.map_eq_some_iff.mp stepped
      exact goesOn system.request true moved tracks.staged rfl rfl rfl
    · cases stepped
  | setCallId =>
    rw [DiallingLine.step] at stepped
    split at stepped
    · split_ifs at stepped
      obtain rfl := Option.some.inj stepped
      exact tracks.drvReturned _
    · cases stepped

end tracks

theorem tracks_makeCall (tapi : TapiLine) (number : TString) : (tapi.makeCall number).Tracks :=
  ⟨MakeCallRequest.staged_new number,
    fun _ => ⟨_, List.mem_append_right _ (List.mem_singleton.mpr rfl), rfl, rfl⟩,
    fun _ gave => nomatch gave⟩

/-- An event of the call whose id has been stored is recognized: the request takes it, or the line
finds the call appearance. -/
theorem Tracks.recognized {system : DiallingLine} (tracks : system.Tracks)
    {event : CallNotification} (stored : system.request.Stored event.callId)
    (tickCount : Dword) : (system.receiveData (some event) tickCount).1 = true := by
  have same := tracks.stored event.callId stored.returned stored.succeeded
  unfold DiallingLine.receiveData
  dsimp only
  split_ifs with takes
  · rfl
  · -- Only a request that is not completed any more goes on, and it takes its own events.
    have unchanged : system.request.onMakeCall (some event) tickCount = system.request := by
      have own : system.request.ownEvent (some event) = true := decide_eq_true same.symm
      unfold MakeCallRequest.takes at takes
      unfold MakeCallRequest.onMakeCall
      cases state : system.request.state with
      | initial => simp [state] at takes
      | waiting => simp [state, own] at takes
      | ignore => rfl
      | completed => rfl
    have holds := tracks.holds ⟨stored.notFailed, stored.inTime⟩
    rw [same] at holds
    obtain ⟨call, found⟩ := holds.find
    rw [unchanged]
    show (Line.unsolicitedCallEvent event (if system.request.completion =
      system.request.completion then system.tapi.line else _)).1 = true
    rw [if_pos rfl, Line.unsolicitedCallEvent_active found]

/-- In every run in which each event of the call that is not IDLE is dispatched when its id has been
stored and the request has not failed, none of them ends as one of a new call that is not
recognized, and the call appearance has the id of each of them. -/
theorem recognized_of_stored {tapi : TapiLine} {number : TString} {actions : List DiallingAction}
    (stored : Along DiallingLine.step StoredFirst actions (tapi.makeCall number))
    {first rest : List DiallingAction} {action : DiallingAction} {system : DiallingLine}
    {event : CallNotification} (split : actions = first ++ action :: rest)
    (reached : run DiallingLine.step first (tapi.makeCall number) = some system)
    (received : event ∈ system.received action)
    (own : system.request.drawn = some event.callId) (shown : event.tapiCallState ≠ .idle) :
    event ∉ system.unrecognized action ∧ system.tapi.line.Holds system.handle event.callId := by
  have tracks : system.Tracks :=
    run_invariant (fun _ _ _ stepped tracks => Tracks.step tracks stepped) reached
      (tracks_makeCall tapi number)
  subst split
  have known := Along.at_split stored reached event received own shown
  constructor
  · intro ended
    rw [unrecognized, List.mem_filter] at ended
    cases action with
    | receiveData tickCount =>
      have refused := ended.2
      dsimp only at refused
      rw [tracks.recognized known tickCount] at refused
      cases refused
    | _ => cases received
  · have holds := tracks.holds ⟨known.notFailed, known.inTime⟩
    rw [tracks.stored event.callId known.returned known.succeeded] at holds
    exact holds

end DiallingLine

/-! ### Concrete runs -/

namespace Example

/-- The thread has logged in. -/
def loggedIn : TapiLine :=
  (run TapiLine.step ((threadLogIn []).map .thread) (TapiLine.new (reading 0) login)).getD
    (TapiLine.new (reading 0) login)

/-- `OnMakeCall` is called, and `MakeCallAsync` adds the handler. -/
def addHandler : List DiallingAction :=
  [.onTimer 1100, .setWaiting 1100, .drvMakeCall, .addStateHandler 0 (reading 1100)]

/-- The thread takes up the request in a `Poll`, and passes on the event. -/
def takeUpCall : List DiallingAction :=
  ([.checkStop false (reading 1200),
    .checkTime (reading 1310) (reading 1310) (.still (reading 1310)) (reading 1310),
    .call .testRequests, .call .takeRequests,
    .call (.handleRequest ⟨reading 1310, reading 1310⟩), .call .testEvents,
    .call (.pollHandlers (readings 1310))] ++ pollEnds 2310 : List ThreadAction).map .thread

/-- The line whose request has stored the id before the event is dispatched -/
def storedFirst : DiallingLine :=
  (run DiallingLine.step (addHandler ++ .setCallId :: takeUpCall)
    (loggedIn.makeCall "123".toList)).getD (loggedIn.makeCall [])

end Example

namespace DiallingLine

theorem recognized_of_stored_setCallId :
    Along DiallingLine.step StoredFirst
        (Example.addHandler ++ .setCallId :: Example.takeUpCall ++ [.receiveData 2320])
        (Example.loggedIn.makeCall "123".toList) ∧
      run DiallingLine.step (Example.addHandler ++ .setCallId :: Example.takeUpCall)
        (Example.loggedIn.makeCall "123".toList) = some Example.storedFirst ∧
      ∃ event ∈ Example.storedFirst.received (.receiveData 2320),
        Example.storedFirst.request.drawn = some event.callId ∧
        event.tapiCallState = .dialtone ∧
        event ∉ Example.storedFirst.unrecognized (.receiveData 2320) ∧
        Example.storedFirst.tapi.line.Holds Example.storedFirst.handle event.callId := by
  have stored : Along DiallingLine.step StoredFirst
      (Example.addHandler ++ .setCallId :: Example.takeUpCall ++ [.receiveData 2320])
      (Example.loggedIn.makeCall "123".toList) := by decide
  have reached : run DiallingLine.step (Example.addHandler ++ .setCallId :: Example.takeUpCall)
    (Example.loggedIn.makeCall "123".toList) = some Example.storedFirst := rfl
  exact ⟨stored, reached, _, List.mem_of_mem_head? rfl, rfl, rfl,
    recognized_of_stored stored rfl reached (List.mem_of_mem_head? rfl) rfl (by decide)⟩

/-- The first event of a call is not recognized when it is dispatched before the id is stored. -/
theorem unrecognized_dispatchedFirst :
    ¬ ∀ (reading : Reading) (loginInfo : LoginInfo) (before : List TapiLineAction)
      (tapi : TapiLine) (number : TString) (actions : List DiallingAction)
      (action : DiallingAction) (system : DiallingLine) (event : CallNotification),
      run TapiLine.step before (TapiLine.new reading loginInfo) = some tapi →
      run DiallingLine.step actions (tapi.makeCall number) = some system →
      event ∈ system.received action → system.request.drawn = some event.callId →
      event.tapiCallState ≠ .idle → event ∉ system.unrecognized action := by
  intro claim
  have loggedIn : run TapiLine.step ((Example.threadLogIn []).map .thread)
    (TapiLine.new (Example.reading 0) Example.login) = some Example.loggedIn := rfl
  have reached : run DiallingLine.step (Example.addHandler ++ Example.takeUpCall)
    (Example.loggedIn.makeCall "123".toList) = some _ := rfl
  have recognized := claim _ _ _ _ _ _ (.receiveData 2320) _ _ loggedIn reached
    (List.mem_of_mem_head? rfl) rfl (by decide)
  exact recognized (List.mem_of_mem_head? rfl)

end DiallingLine

end JnTapi
