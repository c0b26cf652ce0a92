/-
This file models the line that TAPI sees: its call appearances, and what
`COnSipLine::UnsolicitedEvent` does to them with the events of the calls.

The connection thread passes the events to the pool, whose threads take those of
the line one after the other, in order. TAPI may deallocate a call appearance
that is IDLE at any time.
-/

import JnTapi.Library.First
import JnTapi.EventDelivery
import JnTapi.Tapi.CallState

namespace JnTapi

open Library

/-! ### The numbers of an event -/

namespace CallNotification

/-- `COnSip_CallEvent::_extractNumberFromSIP` -/
def extractNumberFromSip (toFromUri : TString) : TString :=
  if !Strings.startsWith toFromUri "sip:".toList then []
  else if !Strings.contains toFromUri "@".toList then []
  else
    let contents := (toFromUri.drop 4).takeWhile (· ≠ '@')
    let number := Strings.stripNonNumeric contents
    if number.length = contents.length then number else []

/-- `COnSip_CallEvent::RemoteID` -/
def remoteId (event : CallNotification) : TString := extractNumberFromSip event.stateData.remoteId

/-- `COnSip_CallEvent::CalledID` -/
def calledId (event : CallNotification) : TString := extractNumberFromSip event.stateData.calledId

end CallNotification

/-! ### Call appearances -/

/-- The `LINECALLORIGIN` values that the program uses -/
inductive CallOrigin
  | unknown
  | outbound
  | inbound
deriving DecidableEq, Repr

/-- The `LINECALLREASON` values that the program uses -/
inductive CallReason
  | unknown
  | direct
deriving DecidableEq, Repr

/-- `CTSPICallAppearance` -/
structure CallAppearance where
  /-- Which object it is -/
  handle : Nat
  callId : Dword
  callState : TapiCallState
  /-- `_InitNotify`: TAPI has been told a state of the call. -/
  known : Bool
  callerId : TString
  calledId : TString
  origin : CallOrigin
  reason : CallReason
deriving DecidableEq, Repr

namespace CallAppearance

/-- `CTSPICallAppearance::Init` -/
def new (handle : Nat) : CallAppearance :=
  ⟨handle, 0, .unknown, false, [], [], .unknown, .unknown⟩

/-- `CTSPICallAppearance::SetCallState`: a call that is IDLE stays so. -/
def setCallState (state : TapiCallState) (call : CallAppearance) : CallAppearance :=
  if call.callState = .idle ∧ state ≠ .idle then call
  else { call with callState := state, known := true }

/-- `SetCallerIDInformation` and `SetCalledIDInformation`, when the event has the numbers -/
def setPartyIds (event : CallNotification) (call : CallAppearance) : CallAppearance :=
  { call with
    callerId := if event.remoteId = [] then call.callerId else event.remoteId
    calledId := if event.calledId = [] then call.calledId else event.calledId }

/-- What `COnSipLine::UnsolicitedCallEvent` does to a call that it has found -/
def activeCall (event : CallNotification) (call : CallAppearance) : CallAppearance :=
  CallAppearance.setPartyIds event
    (if event.tapiCallState ≠ call.callState then call.setCallState event.tapiCallState else call)

@[simp] theorem callId_setCallState (state : TapiCallState) (call : CallAppearance) :
    (call.setCallState state).callId = call.callId := by
  unfold setCallState
  split_ifs <;> rfl

@[simp] theorem handle_setCallState (state : TapiCallState) (call : CallAppearance) :
    (call.setCallState state).handle = call.handle := by
  unfold setCallState
  split_ifs <;> rfl

theorem callState_setCallState (state : TapiCallState) (call : CallAppearance) :
    (call.setCallState state).callState =
      if call.callState = .idle then .idle else state := by
  unfold setCallState
  by_cases idle : call.callState = .idle
  · rw [if_pos idle]
    split_ifs with leaves
    · exact idle
    · exact not_not.mp fun other => leaves ⟨idle, other⟩
  · rw [if_neg fun leaves => idle leaves.1, if_neg idle]

@[simp] theorem callId_activeCall (event : CallNotification) (call : CallAppearance) :
    (call.activeCall event).callId = call.callId := by
  unfold activeCall
  split_ifs
  · exact callId_setCallState _ call
  · rfl

@[simp] theorem handle_activeCall (event : CallNotification) (call : CallAppearance) :
    (call.activeCall event).handle = call.handle := by
  unfold activeCall
  split_ifs
  · exact handle_setCallState _ call
  · rfl

theorem callState_activeCall (event : CallNotification) (call : CallAppearance) :
    (call.activeCall event).callState =
      if call.callState = .idle then .idle else event.tapiCallState := by
  unfold activeCall
  split_ifs with differs idle idle
  · exact (callState_setCallState _ call).trans (if_pos idle)
  · exact (callState_setCallState _ call).trans (if_neg idle)
  · exact idle
  · exact (not_not.mp differs).symm

end CallAppearance

/-! ### The line -/

/-- `COnSipLine` with the call appearances of its address -/
structure Line where
  appearances : List CallAppearance
  /-- The number of call appearances that have been created -/
  created : Nat
deriving DecidableEq, Repr

namespace Line

def new : Line := ⟨[], 0⟩

/-- `FindCallByCallID` -/
def findCallByCallId (callId : Dword) (line : Line) : Option CallAppearance :=
  line.appearances.find? fun call => call.callId = callId

/-- The line with a change of the call appearance that `FindCallByCallID` finds -/
def updateCall (callId : Dword) (change : CallAppearance → CallAppearance) (line : Line) : Line :=
  { line with
    appearances := updateFirst (fun call => call.callId = callId) change line.appearances }

/-- The line with a call appearance that `CreateCallAppearance` has created -/
def addCall (call : CallAppearance) (line : Line) : Line :=
  ⟨line.appearances ++ [call], line.created + 1⟩

/-- The call appearance of `COnSipLine::OnNewCallDetected` -/
def onNewCallDetected (fPlaced : Bool) (event : CallNotification) (line : Line) :
    CallAppearance :=
  let call := { CallAppearance.new line.created with callId := event.callId }
  let call := call.setCallState (if fPlaced then .dialing else .offering)
  { call.setPartyIds event with
    origin := if fPlaced then .outbound else .inbound
    reason := if call.reason = .unknown then .direct else call.reason }

/-- `COnSipLine::UnsolicitedCallEvent`. It returns false where it does not recognize a new call. -/
def unsolicitedCallEvent (event : CallNotification) (line : Line) : Bool × Line :=
  match line.findCallByCallId event.callId with
  | none =>
    match event.callType with
    | .incomingCall => (true, line.addCall (line.onNewCallDetected false event))
    | .physicalCall =>
      (true, line.addCall ((line.onNewCallDetected true event).setCallState .proceeding))
    | .makeCall => (event.tapiCallState = .idle, line)
    | .unknown => (false, line)
  | some _ => (true, line.updateCall event.callId (CallAppearance.activeCall event))

@[simp] theorem findCallByCallId_updateCall {callId : Dword}
    {change : CallAppearance → CallAppearance} (line : Line)
    (keeps : ∀ call, (change call).callId = call.callId) :
    (line.updateCall callId change).findCallByCallId callId =
      (line.findCallByCallId callId).map change :=
  find_updateFirst (fun call => by rw [keeps]) line.appearances

theorem findCallByCallId_updateCall_other {callId other : Dword}
    {change : CallAppearance → CallAppearance} (line : Line)
    (keeps : ∀ call, (change call).callId = call.callId) (apart : other ≠ callId) :
    (line.updateCall callId change).findCallByCallId other = line.findCallByCallId other := by
  refine find_updateFirst_other (fun call fits => ?_) line.appearances
  have own : call.callId = callId := of_decide_eq_true fits
  exact ⟨decide_eq_false (by rw [own]; exact apart.symm),
    decide_eq_false (by rw [keeps, own]; exact apart.symm)⟩

theorem findCallByCallId_addCall (callId : Dword) (call : CallAppearance) (line : Line) :
    (line.addCall call).findCallByCallId callId =
      (line.findCallByCallId callId).or (if call.callId = callId then some call else none) := by
  rw [findCallByCallId, addCall, List.find?_append, List.find?_singleton]
  simp [findCallByCallId]

/-- `RemoveCallAppearance` -/
def removeCallAppearance (handle : Nat) (line : Line) : Line :=
  { line with appearances := line.appearances.filter fun call => call.handle ≠ handle }

end Line

end JnTapi
