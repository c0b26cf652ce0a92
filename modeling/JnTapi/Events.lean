/-
This file models the events that travel through the state machines: what the
server sends, what the connection reports, and the requests of the program to
itself.

The class of an event decides which of its data a state machine reads. The
addresses, the error text and the stanza that an event carries are left out:
no handler reads them.
-/

import JnTapi.Text
import JnTapi.Clock

namespace JnTapi

/-- `XmppActiveCallEvent::CallDialogState` -/
inductive CallDialogState
  | unknown
  | created
  | confirmed
  | requested
deriving DecidableEq, Repr

/-- The data of an `XmppActiveCallEvent`. -/
structure ActiveCall where
  dialogState : CallDialogState
  sipCallid : TString
  fromUri : TString
  toUri : TString
  fromTag : TString
  toTag : TString
  branch : TString
  callSetupId : TString
deriving DecidableEq, Repr

/-- The class of an event with the data of the class. -/
inductive XmppEventData
  /-- `XmppAuthEvent` -/
  | auth (expireDate : TString)
  /-- `XmppCallRequestEvent` -/
  | callRequest (callSetupId : TString)
  /-- `XmppPubSubSubscribedEvent` -/
  | subscribed (isSubscribed : Bool) (subid : TString)
  /-- `XmppActiveCallEvent` -/
  | activeCall (ace : ActiveCall)
  /-- `XmppRetractCallEvent` -/
  | retractCall
  /-- `XmppOnConnectEvent` -/
  | onConnect
  /-- `XmppOnDisconnectEvent` -/
  | onDisconnect
  /-- `XmppIqResultEvent` -/
  | iqResult
  /-- `DropRequestEvent` -/
  | dropRequest (callId : Long)
  /-- `ShutdownRequestEvent` -/
  | shutdownRequest
deriving DecidableEq, Repr

/-- The connection delivers all events but the requests to drop a call and to shut down, which the
program adds itself. -/
def XmppEventData.fromConnection : XmppEventData → Bool
  | .dropRequest _ | .shutdownRequest => false
  | _ => true

/-- `XmppEvent` -/
structure XmppEvent where
  id : TString
  isError : Bool
  context : Long
  data : XmppEventData
deriving DecidableEq, Repr

namespace XmppEvent

/-- `DropRequestEvent(callId)` -/
def newDropRequest (callId : Long) : XmppEvent := ⟨[], false, 0, .dropRequest callId⟩

/-- `ShutdownRequestEvent()` -/
def newShutdownRequest : XmppEvent := ⟨[], false, 0, .shutdownRequest⟩

/-- `XmppEventFactory::connectFactory` -/
def connectFactory (connect : Bool) : XmppEvent :=
  if connect then ⟨[], false, 0, .onConnect⟩ else ⟨[], false, 0, .onDisconnect⟩

end XmppEvent

end JnTapi
