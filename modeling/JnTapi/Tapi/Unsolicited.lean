/-
This file proves when the line agrees with the call machine about an incoming
call or a call placed on the phone.

Every event that the connection thread passes on goes to `UnsolicitedEvent`, and
TAPI deallocates call appearances that are IDLE in between. An event for which
the line has no call appearance always begins a call, whatever it notifies.
-/

import JnTapi.Tapi.Line

namespace JnTapi

open Library

/-- The connection thread with the pool and the line -/
structure TapiLine where
  thread : ConnectionThread
  /-- The call events that `_processEvent` has added to the pool -/
  queued : List CallNotification
  line : Line
deriving DecidableEq, Repr

/-- One step of one of the threads, or of TAPI. -/
inductive TapiLineAction
  /-- A step of the connection thread, or of a thread that makes or drops calls -/
  | thread (action : ThreadAction)
  /-- A thread of the pool passes the next event to `UnsolicitedEvent`. -/
  | unsolicitedEvent
  /-- TAPI deallocates a call appearance that is IDLE. -/
  | deallocate (handle : Nat)

namespace TapiLine

/-- The line when the connection thread begins -/
def new (reading : Reading) (loginInfo : LoginInfo) : TapiLine :=
  ⟨ConnectionThread.new reading loginInfo, [], Line.new⟩

/-- One step of the line; `none` when there is nothing to take the step. -/
def step (system : TapiLine) : TapiLineAction → Option TapiLine
  | .thread action =>
    (system.thread.step action).map fun thread =>
      { system with
        thread := thread
        queued := system.queued ++ system.thread.processed action }
  | .unsolicitedEvent =>
    match system.queued with
    | event :: rest =>
      some { system with queued := rest, line := (system.line.unsolicitedCallEvent event).2 }
    | [] => none
  | .deallocate handle =>
    if ∃ call ∈ system.line.appearances, call.handle = handle ∧ call.callState = .idle then
      some { system with line := system.line.removeCallAppearance handle }
    else none

end TapiLine

namespace Line

/-- The line shows the call as the event does: with one call appearance in its state, or with none
when the call is IDLE. -/
def Agrees (event : CallNotification) (line : Line) : Prop :=
  (∃ call, line.appearances.filter (fun call => call.callId = event.callId) = [call] ∧
    call.callState = event.tapiCallState) ∨
  line.appearances.filter (fun call => call.callId = event.callId) = [] ∧
    event.tapiCallState = .idle

/-- The state that `UnsolicitedCallEvent` gives to a new call -/
def newCallState : CallType → TapiCallState
  | .physicalCall => .proceeding
  | _ => .offering

/-- The event begins the call in the state of a new one, or the line has it, and not as an IDLE one
that is to leave this state. -/
def Ready (event : CallNotification) (line : Line) : Prop :=
  match line.findCallByCallId event.callId with
  | none => event.tapiCallState = newCallState event.callType
  | some call => call.callState = .idle → event.tapiCallState = .idle

instance (event : CallNotification) (line : Line) : Decidable (line.Ready event) := by
  unfold Ready
  split <;> infer_instance

/-- No two call appearances have the same call id. -/
def Distinct (line : Line) : Prop := (line.appearances.map CallAppearance.callId).Nodup

theorem callState_onNewCallDetected (fPlaced : Bool) (event : CallNotification) (line : Line) :
    (line.onNewCallDetected fPlaced event).callState = if fPlaced then .dialing else .offering := by
  cases fPlaced <;> rfl

@[simp] theorem callId_onNewCallDetected (fPlaced : Bool) (event : CallNotification)
    (line : Line) : (line.onNewCallDetected fPlaced event).callId = event.callId := by
  cases fPlaced <;> rfl

/-- A new call has the id of the event and the state of a new call. -/
theorem unsolicitedCallEvent_new {event : CallNotification} {line : Line}
    (kind : event.callType = .incomingCall ∨ event.callType = .physicalCall)
    (absent : line.findCallByCallId event.callId = none) :
    ∃ call, (line.unsolicitedCallEvent event).2 = line.addCall call ∧
      call.callId = event.callId ∧ call.callState = newCallState event.callType := by
  unfold unsolicitedCallEvent
  rw [absent]
  rcases kind with incoming | physical
  · rw [incoming]
    exact ⟨_, rfl, callId_onNewCallDetected false event line,
      callState_onNewCallDetected false event line⟩
  · rw [physical]
    refine ⟨_, rfl, ?_, ?_⟩
    · rw [CallAppearance.callId_setCallState, callId_onNewCallDetected]
    · rw [CallAppearance.callState_setCallState, callState_onNewCallDetected]
      rfl

theorem unsolicitedCallEvent_active {event : CallNotification} {line : Line}
    {call : CallAppearance} (found : line.findCallByCallId event.callId = some call) :
    line.unsolicitedCallEvent event =
      (true, line.updateCall event.callId (CallAppearance.activeCall event)) := by
  rw [unsolicitedCallEvent, found]

/-- After the event the line agrees with it exactly when it was ready for it. -/
theorem agrees_unsolicitedCallEvent {event : CallNotification} {line : Line}
    (kind : event.callType = .incomingCall ∨ event.callType = .physicalCall)
    (distinct : line.Distinct) :
    (line.unsolicitedCallEvent event).2.Agrees event ↔ line.Ready event := by
  have sought := filter_eq_find distinct event.callId
  unfold Ready
  cases found : line.findCallByCallId event.callId with
  | none =>
    obtain ⟨call, added, own, state⟩ := unsolicitedCallEvent_new kind found
    have only : (line.addCall call).appearances.filter (fun call => call.callId = event.callId) =
        [call] := by
      rw [addCall, List.filter_append, sought,
        show line.appearances.find? (fun call => call.callId = event.callId) = none from found,
        List.filter_singleton, decide_eq_true own]
      rfl
    rw [added, Agrees, only]
    constructor
    · rintro (⟨other, same, agrees⟩ | ⟨empty, -⟩)
      · obtain rfl : call = other := List.singleton_inj.mp same
        exact agrees.symm.trans state
      · cases empty
    · exact fun initial => Or.inl ⟨call, rfl, state.trans initial.symm⟩
  | some call =>
    have keeps : ∀ call : CallAppearance, (call.activeCall event).callId = call.callId :=
      CallAppearance.callId_activeCall event
    have updated : ((line.updateCall event.callId
        (CallAppearance.activeCall event)).appearances.map CallAppearance.callId).Nodup := by
      rw [updateCall, map_updateFirst keeps]
      exact distinct
    have only : (line.updateCall event.callId (CallAppearance.activeCall event)).appearances.filter
        (fun call => call.callId = event.callId) = [call.activeCall event] := by
      rw [filter_eq_find updated]
      have after : (line.updateCall event.callId (CallAppearance.activeCall event)).findCallByCallId
          event.callId = _ := findCallByCallId_updateCall line keeps
      rw [found] at after
      exact congrArg Option.toList after
    rw [unsolicitedCallEvent_active found, Agrees, only]
    dsimp only
    have state := CallAppearance.callState_activeCall event call
    constructor
    · rintro (⟨other, same, agrees⟩ | ⟨empty, -⟩)
      · intro idle
        obtain rfl : call.activeCall event = other := List.singleton_inj.mp same
        rw [← agrees, state, if_pos idle]
      · cases empty
    · intro ready
      refine Or.inl ⟨_, rfl, ?_⟩
      rw [state]
      split_ifs with idle
      · exact (ready idle).symm
      · rfl

theorem Distinct.unsolicitedCallEvent {line : Line} (distinct : line.Distinct)
    (event : CallNotification) : (line.unsolicitedCallEvent event).2.Distinct := by
  have added : ∀ call : CallAppearance, call.callId = event.callId →
      line.findCallByCallId event.callId = none → (line.addCall call).Distinct := by
    intro call own absent
    rw [Distinct, addCall, List.map_append, List.map_singleton]
    refine distinct.append (List.nodup_singleton _) ?_
    intro callId before same
    obtain ⟨other, member, rfl⟩ := List.mem_map.mp before
    refine List.find?_eq_none.mp absent other member (decide_eq_true ?_)
    rw [List.mem_singleton.mp same, own]
  unfold Line.unsolicitedCallEvent
  split
  case h_1 absent =>
    split
    · exact added _ (callId_onNewCallDetected false event line) absent
    · exact added _ (by simp) absent
    · exact distinct
    · exact distinct
  case h_2 =>
    rw [Distinct, updateCall, map_updateFirst (CallAppearance.callId_activeCall event)]
    exact distinct

end Line

namespace TapiLine

theorem distinct_of_run {reading : Reading} {loginInfo : LoginInfo}
    {actions : List TapiLineAction} {system : TapiLine}
    (reached : run TapiLine.step actions (TapiLine.new reading loginInfo) = some system) :
    system.line.Distinct := by
  suffices preserved : ∀ (system : TapiLine) (action : TapiLineAction) (next : TapiLine),
      system.step action = some next → system.line.Distinct → next.line.Distinct from
    run_invariant preserved reached List.nodup_nil
  intro system action next stepped distinct
  cases action with
  | thread action =>
    obtain ⟨thread, -, rfl⟩ := Option.map_eq_some_iff.mp stepped
    exact distinct
  | unsolicitedEvent =>
    rw [step] at stepped
    split at stepped
    · obtain rfl := Option.some.inj stepped
      exact distinct.unsolicitedCallEvent _
    · cases stepped
  | deallocate handle =>
    rw [step] at stepped
    split_ifs at stepped
    obtain rfl := Option.some.inj stepped
    exact distinct.sublist (List.filter_sublist.map _)

/-- In every run, after the next event of an incoming call or of one placed on the phone the line
agrees with it exactly when the line was ready for it. -/
theorem agrees_iff {reading : Reading} {loginInfo : LoginInfo} {actions : List TapiLineAction}
    {system next : TapiLine} {event : CallNotification} {rest : List CallNotification}
    (reached : run TapiLine.step actions (TapiLine.new reading loginInfo) = some system)
    (queued : system.queued = event :: rest)
    (kind : event.callType = .incomingCall ∨ event.callType = .physicalCall)
    (stepped : system.step .unsolicitedEvent = some next) :
    next.line.Agrees event ↔ system.line.Ready event := by
  rw [step, queued] at stepped
  obtain rfl := Option.some.inj stepped
  exact Line.agrees_unsolicitedCallEvent kind (distinct_of_run reached)

end TapiLine

/-! ### Concrete runs -/

namespace Example

/-- The `Poll` ends, and its one event is passed on. -/
def pollEnds (tick : Nat) : List ThreadAction :=
  [.received .connNoError,
    .checkTime (reading tick) (reading tick) (.still (reading tick)) (reading tick), .processEvent,
    .updateState]

/-- A call rings and is hung up in one `Poll`, whose events are passed on. -/
def ringAndHangUpThread : List ThreadAction :=
  threadLogIn [] ++ .checkStop false (reading 1000) :: pollLoop 1010 ++
    [.arrive (arrivalAt 1020 (activeCall "a" "call" .requested)
        (fromConnection_activeCall "a" "call" .requested)),
      .arrive (arrivalAt 1500 (retract "a") (fromConnection_retract "a")), .received .connNoError,
      .checkTime (reading 2010) (reading 2010) (.still (reading 2010)) (reading 2010),
      .processEvent, .processEvent, .processEvent]

/-- TAPI deallocates the call appearance between the two events that notify the end of the call. -/
def deallocateBetween : List TapiLineAction :=
  ringAndHangUpThread.map .thread ++ [.unsolicitedEvent, .unsolicitedEvent, .deallocate 0]

end Example

namespace TapiLine

theorem agrees_iff_ringAndHangUp :
    ∃ system next event rest, run TapiLine.step (Example.ringAndHangUpThread.map .thread)
        (TapiLine.new (Example.reading 0) Example.login) = some system ∧
      system.queued = event :: rest ∧ event.tapiCallState = .offering ∧
      system.step .unsolicitedEvent = some next ∧
      (next.line.Agrees event ↔ system.line.Ready event) := by
  have reached : run TapiLine.step (Example.ringAndHangUpThread.map .thread)
    (TapiLine.new (Example.reading 0) Example.login) = some _ := rfl
  exact ⟨_, _, _, _, reached, rfl, rfl, rfl, agrees_iff reached rfl (Or.inl rfl) rfl⟩

/-- A call rings for ever when TAPI has deallocated it before its end is notified again. -/
theorem agrees_deallocateBetween :
    ¬ ∀ (reading : Reading) (loginInfo : LoginInfo) (actions : List TapiLineAction)
      (system next : TapiLine) (event : CallNotification) (rest : List CallNotification),
      run TapiLine.step actions (TapiLine.new reading loginInfo) = some system →
      system.queued = event :: rest →
      event.callType = .incomingCall ∨ event.callType = .physicalCall →
      system.step .unsolicitedEvent = some next → next.line.Agrees event := by
  intro claim
  have reached : run TapiLine.step Example.deallocateBetween
    (TapiLine.new (Example.reading 0) Example.login) = some _ := rfl
  have agrees := claim _ _ _ _ _ _ _ reached rfl (Or.inl rfl) rfl
  rw [Line.agrees_unsolicitedCallEvent (Or.inl rfl) (distinct_of_run reached)] at agrees
  revert agrees
  decide

end TapiLine

end JnTapi
