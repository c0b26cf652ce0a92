/-
This file models the handlers of the call machine: one kind for calls that the
user places on a phone, one for incoming calls and one for calls that the
program makes. It also models the virtual functions of the call machine itself.

A handler is what the three classes share, with the data of its kind.
-/

import JnTapi.Call.Branches
import JnTapi.Xmpp

namespace JnTapi

/-! ### Handlers -/

/-- The fields that only `OnSipMakeCallStateHandler` has. -/
structure MakeCallData where
  contextId : Long
  outId : TString
  toSipField : TString
  fromSipField : TString
  inSipCallId : TString
  outSipCallId : TString
deriving DecidableEq, Repr

/-- The class of a call handler. -/
inductive CallHandlerKind
  /-- `OnSipOutgoingCallStateHandler` -/
  | outgoing
  /-- `OnSipIncomingCallStateHandler` -/
  | incoming
  /-- `OnSipMakeCallStateHandler` -/
  | makeCall (make : MakeCallData)
deriving DecidableEq, Repr

/-- `OnSipCallStateHandlerBase` -/
structure CallHandler where
  currentState : StateItem CallStates XmppEvent OnSipCallStateData
  branches : CallBranches
  droppedContextIds : List Long
  kind : CallHandlerKind
deriving DecidableEq, Repr

namespace CallHandler

/-- `getCurrentState` -/
def state (handler : CallHandler) : CallStates := handler.currentState.state

/-- `getCurrentStateData` -/
def stateData (handler : CallHandler) : OnSipCallStateData := handler.currentState.stateData

/-- The unique id of the call -/
def callId (handler : CallHandler) : Long := handler.stateData.callId

/-- `HasPreExecute`: only the handler of a call that the program makes sets it. -/
def hasPreExecute (handler : CallHandler) : Bool :=
  match handler.kind with
  | .makeCall _ => true
  | _ => false

/-- `assignNewState` -/
def assignNewState (reading : Reading) (state : CallStates) (eventData : Option XmppEvent)
    (handler : CallHandler) (xmpp : Xmpp) : CallHandler × Xmpp :=
  ({ handler with currentState := handler.currentState.assignNewState reading state eventData },
    xmpp.release handler.currentState.eventData)

/-- The handler with other state data -/
def withStateData (stateData : OnSipCallStateData) (handler : CallHandler) : CallHandler :=
  { handler with currentState := { handler.currentState with stateData := stateData } }

/-- `AssignCallStateData` of the current state data, which keeps its call id -/
def assignCallStateData (id : TString) (ace : ActiveCall) (updateCallerId : Bool)
    (handler : CallHandler) : CallHandler :=
  handler.withStateData (handler.stateData.assignCallStateData id ace (-1) updateCallerId none)

/-- `m_branches.AddBranch` with the call id and the type of the current state data -/
def addBranch (id : TString) (ace : ActiveCall) (updateCallerId : Bool)
    (callSetupId : Option TString) (handler : CallHandler) : CallHandler :=
  { handler with
    branches := handler.branches.addBranchOf id ace handler.callId handler.stateData.callType
      updateCallerId callSetupId }

/-! ### What the three kinds share -/

/-- `OnSipCallStateMachine::DropCall` -/
def dropCall (callData : OnSipCallStateData) (xmpp : Xmpp) : Long × Xmpp :=
  let (contextId, xmpp) := xmpp.getUniqueId
  (contextId, xmpp.dropCall callData.sipCallId callData.fromTag callData.toTag contextId)

/-- The loop of `CheckDropRequestEvent` over the branches -/
def dropBranches : List OnSipCallStateData → CallHandler → Xmpp → CallHandler × Xmpp
  | [], handler, xmpp => (handler, xmpp)
  | branch :: rest, handler, xmpp =>
    let (contextId, xmpp) := dropCall branch xmpp
    dropBranches rest
      { handler with droppedContextIds := handler.droppedContextIds ++ [contextId] } xmpp

/-- `OnSipCallStateHandlerBase::CheckDropRequestEvent` -/
def checkDropRequestEvent (event : XmppEvent) (callId : Long) (handler : CallHandler)
    (xmpp : Xmpp) : Bool × CallHandler × Xmpp :=
  match event.data with
  | .dropRequest requested =>
    if requested ≠ callId then (false, handler, xmpp)
    else (true, dropBranches handler.branches.branches handler xmpp)
  | _ => (false, handler, xmpp)

/-- `OnSipCallStateHandlerBase::CheckIqReplyDropRequest` -/
def checkIqReplyDropRequest (event : XmppEvent) (handler : CallHandler) : Bool × CallHandler :=
  match event.data with
  | .iqResult =>
    if event.context ∈ handler.droppedContextIds then
      (true, { handler with droppedContextIds := handler.droppedContextIds.erase event.context })
    else (false, handler)
  | _ => (false, handler)

/-- The end of each `IsYourEvent`: the request to drop the call, and the replies to the commands
that the request caused. -/
def dropRequestOrReply (reading : Reading) (handler : CallHandler) (event : XmppEvent)
    (xmpp : Xmpp) : Bool × CallHandler × Xmpp :=
  match handler.checkDropRequestEvent event handler.callId xmpp with
  | (true, handler, xmpp) =>
    let (handler, xmpp) := handler.assignNewState reading .preDropCall none xmpp
    (true, handler, xmpp.deleteEvent event)
  | (false, handler, xmpp) =>
    match handler.checkIqReplyDropRequest event with
    | (true, handler) => (true, handler, xmpp.deleteEvent event)
    | (false, handler) => (false, handler, xmpp)

/-- `OnSipCallStateHandlerBase::CheckStateTimeout` -/
def checkStateTimeout (callState : CallStates) (timeout : Int) (reading : Reading)
    (handler : CallHandler) (xmpp : Xmpp) : Bool × CallHandler × Xmpp :=
  if handler.state = callState ∧
      timeout < handler.currentState.msecsSinceLastStateChange reading then
    if reading.disableTimeout ≠ 0 then (false, handler, xmpp)
    else (true, handler.assignNewState reading .dropped none xmpp)
  else (false, handler, xmpp)

/-- The form of each `IsStillExist`: the time limits in order, then the state. A handler that
reaches a limit is still reported to exist, until the next check. -/
def stillExists (reading : Reading) :
    List (CallStates × Int) → CallHandler → Xmpp → Bool × CallHandler × Xmpp
  | [], handler, xmpp => (handler.state ≠ .dropped, handler, xmpp)
  | (callState, timeout) :: rest, handler, xmpp =>
    match handler.checkStateTimeout callState timeout reading xmpp with
    | (true, handler, xmpp) => (true, handler, xmpp)
    | (false, handler, xmpp) => stillExists reading rest handler xmpp

def makeCallCreateTimeout : Int := 10 * msecsInSec

def makeCallInboundRequestTimeout : Int := 45 * msecsInSec

def makeCallInboundAnsweredTimeout : Int := 15 * msecsInSec

def outboundRequestTimeout : Int := 2 * msecsInMin

def connectedCallTimeout : Int := 3 * msecsInHour

def inboundOfferingTimeout : Int := 2 * msecsInMin

def dropRequestTimeout : Int := 10 * msecsInSec

/-! ### Calls placed on the phone -/

/-- `OnSipOutgoingCallStateHandler(pEvent, callId)` -/
def newOutgoing (reading : Reading) (event : XmppEvent) (ace : ActiveCall) (callId : Long) :
    CallHandler :=
  let stateData := { OnSipCallStateData.new with callType := .physicalCall }.assignCallStateData
    event.id ace callId true none
  { currentState := ⟨.physicalOutProceeding, some event, stateData, reading.tickCount⟩
    branches := CallBranches.new.addBranch stateData
    droppedContextIds := []
    kind := .outgoing }

/-- `OnSipOutgoingCallStateHandler::IsYourEvent` -/
def outgoingIsYourEvent (reading : Reading) (handler : CallHandler) (event : XmppEvent)
    (xmpp : Xmpp) : Bool × CallHandler × Xmpp :=
  match event.data with
  | .activeCall ace =>
    if ace.sipCallid ≠ handler.stateData.sipCallId then (false, handler, xmpp)
    else
      let handler := handler.addBranch event.id ace true none
      if ace.dialogState = .confirmed then
        let (handler, xmpp) := handler.assignNewState reading .connected (some event) xmpp
        (true, handler.assignCallStateData event.id ace true, xmpp)
      else (true, handler, xmpp.deleteEvent event)
  | .retractCall =>
    if !handler.branches.hasId event.id then (false, handler, xmpp)
    else (true, handler.assignNewState reading .dropped (some event) xmpp)
  | _ => handler.dropRequestOrReply reading event xmpp

/-- `OnSipOutgoingCallStateHandler::IsStillExist` -/
def outgoingIsStillExist (reading : Reading) : CallHandler → Xmpp → Bool × CallHandler × Xmpp :=
  stillExists reading [(.physicalOutProceeding, outboundRequestTimeout),
    (.connected, connectedCallTimeout), (.preDropCall, dropRequestTimeout)]

/-! ### Incoming calls -/

/-- `OnSipIncomingCallStateHandler(pEvent, callId)` -/
def newIncoming (reading : Reading) (event : XmppEvent) (ace : ActiveCall) (callId : Long) :
    CallHandler :=
  let stateData := { OnSipCallStateData.new with callType := .incomingCall }.assignCallStateData
    event.id ace callId true none
  { currentState := ⟨.offering, some event, stateData, reading.tickCount⟩
    branches := CallBranches.new.addBranchOf event.id ace stateData.callId stateData.callType
      true none
    droppedContextIds := []
    kind := .incoming }

/-- `OnSipIncomingCallStateHandler::IsYourEvent` -/
def incomingIsYourEvent (reading : Reading) (handler : CallHandler) (event : XmppEvent)
    (xmpp : Xmpp) : Bool × CallHandler × Xmpp :=
  match event.data with
  | .activeCall ace =>
    if ace.sipCallid ≠ handler.stateData.sipCallId then (false, handler, xmpp)
    else
      let handler := handler.addBranch event.id ace true none
      if ace.dialogState = .confirmed then
        let (handler, xmpp) := handler.assignNewState reading .connected (some event) xmpp
        (true, handler.assignCallStateData event.id ace true, xmpp)
      else (true, handler, xmpp.deleteEvent event)
  | .retractCall =>
    if !handler.branches.hasId event.id then (false, handler, xmpp)
    else
      match handler.branches.checkDroppedCall handler.stateData event.id with
      | (true, callData, branches) =>
        let handler := { handler.withStateData callData with branches := branches }
        (true, handler.assignNewState reading .dropped (some event) xmpp)
      | (false, callData, branches) =>
        (true, { handler.withStateData callData with branches := branches },
          xmpp.deleteEvent event)
  | _ => handler.dropRequestOrReply reading event xmpp

/-- `OnSipIncomingCallStateHandler::IsStillExist` -/
def incomingIsStillExist (reading : Reading) : CallHandler → Xmpp → Bool × CallHandler × Xmpp :=
  stillExists reading [(.offering, inboundOfferingTimeout), (.connected, connectedCallTimeout),
    (.preDropCall, dropRequestTimeout)]

end CallHandler

end JnTapi
