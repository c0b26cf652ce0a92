/-
This file models the TAPI state of a call, which `OnSipTapiCall` makes of the
state and the type that the call machine notifies.
-/

import JnTapi.Xmpp

namespace JnTapi

/-- The `LINECALLSTATE` values that the program uses -/
inductive TapiCallState
  | idle
  | offering
  | dialtone
  | dialing
  | proceeding
  | connected
  | unknown
deriving DecidableEq, Repr

/-- `OnSipTapiCall::GetTapiCallState` -/
def getTapiCallState (callState : CallStates) (callType : CallType) : TapiCallState :=
  match callState with
  | .dropped => .idle
  | .connected | .preDropCall => .connected
  | .physicalOutProceeding => .proceeding
  | .offering => .offering
  | _ =>
    if callType = .makeCall then
      match callState with
      | .preMakeCall | .makeCallSet => .dialtone
      | .makeCallRequested | .makeCallRequestedAnswered => .dialing
      | .makeCallOutgoingCreated => .proceeding
      | _ => .unknown
    else .unknown

namespace CallNotification

/-- `COnSip_CallEvent::CallId` -/
def callId (notification : CallNotification) : Dword := notification.stateData.callId

/-- `COnSip_CallEvent::CallType` -/
def callType (notification : CallNotification) : CallType := notification.stateData.callType

/-- `COnSip_CallEvent::GetTapiCallState` -/
def tapiCallState (notification : CallNotification) : TapiCallState :=
  getTapiCallState notification.state notification.callType

end CallNotification

end JnTapi
