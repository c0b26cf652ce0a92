/-
This file models the states, the types and the state data of a call.
-/

import JnTapi.Events

namespace JnTapi

/-- `OnSipXmppStates::CallStates` -/
inductive CallStates
  | unknown
  | offering
  /-- The user is placing a call on the phone itself. -/
  | physicalOutProceeding
  | connected
  | dropped
  /-- A call is to be made and nothing has been sent yet. -/
  | preMakeCall
  /-- The request to make the call has been sent. -/
  | makeCallSet
  /-- The user's own phone rings for the call. -/
  | makeCallRequested
  /-- The user has answered the own phone. -/
  | makeCallRequestedAnswered
  /-- The call to the other party has been created. -/
  | makeCallOutgoingCreated
  /-- The call is being dropped. -/
  | preDropCall
deriving DecidableEq, Repr

/-- `OnSipXmppCallType::CallType` -/
inductive CallType
  | unknown
  | makeCall
  | incomingCall
  | physicalCall
deriving DecidableEq, Repr

/-- `OnSipCallStateData` -/
structure OnSipCallStateData where
  /-- The XMPP id -/
  id : TString
  /-- The unique id of the call in this program -/
  callId : Long
  remoteId : TString
  calledId : TString
  /-- The SIP call id -/
  sipCallId : TString
  callType : CallType
  fromTag : TString
  toTag : TString
  branch : TString
  callSetupId : TString
deriving DecidableEq, Repr

namespace OnSipCallStateData

/-- `OnSipCallStateData()` -/
def new : OnSipCallStateData := ⟨[], 0, [], [], [], .unknown, [], [], [], []⟩

/-- `OnSipCallStateData::SameCallSetupId` -/
def sameCallSetupId (callSetupId : TString) (callStateData : OnSipCallStateData) : Bool :=
  !callStateData.callSetupId.isEmpty && callStateData.callSetupId == callSetupId

/-- `OnSipCallStateHelper::AssignCallStateData`. The XMPP id is that of the event. -/
def assignCallStateData (id : TString) (ace : ActiveCall) (callId : Long) (updateCallerId : Bool)
    (callSetupId : Option TString) (callStateData : OnSipCallStateData) : OnSipCallStateData :=
  { id := id
    callId := if callId ≠ -1 then callId else callStateData.callId
    remoteId := if updateCallerId then ace.fromUri else callStateData.remoteId
    calledId := if updateCallerId then ace.toUri else callStateData.calledId
    sipCallId := ace.sipCallid
    callType := callStateData.callType
    fromTag := ace.fromTag
    toTag := ace.toTag
    branch := ace.branch
    callSetupId := callSetupId.getD callStateData.callSetupId }

section assign

variable (id : TString) (ace : ActiveCall) (callId : Long) (updateCallerId : Bool)
  (callSetupId : Option TString) (callStateData : OnSipCallStateData)

theorem assignCallStateData_callId (given : callId ≠ -1) :
    (callStateData.assignCallStateData id ace callId updateCallerId callSetupId).callId = callId :=
  if_pos given

end assign

end OnSipCallStateData

end JnTapi
