/-
This file models the handler of a call that the program makes, and collects the
virtual functions of the call machine.

The server first rings the user's own phone with an incoming call whose To field
is the user's address, and calls the other party once the user has answered. The
handler follows these two legs by the exact To and From fields of its request
and by the call setup id that the server repeats in its events.
-/

import JnTapi.Call.Handler

namespace JnTapi

namespace CallHandler

/-! ### Calls that the program makes -/

/-- `OnSipMakeCallStateHandler(toDial, callId)` -/
def newMakeCall (reading : Reading) (toDial : TString) (callId : Long) : CallHandler :=
  { currentState := ⟨.preMakeCall, none,
      { OnSipCallStateData.new with callType := .makeCall, callId := callId, remoteId := toDial },
      reading.tickCount⟩
    branches := CallBranches.new
    droppedContextIds := []
    kind := .makeCall ⟨0, [], [], [], [], []⟩ }

/-- The handler with other data of its kind -/
def withMake (make : MakeCallData) (handler : CallHandler) : CallHandler :=
  { handler with kind := .makeCall make }

/-- The call setup id of `PreExecute`: the clock in eight characters, the last ones if there are
more. -/
def newCallSetupId (reading : Reading) : TString :=
  let callSetupId := Strings.formatLong08 reading.clock.toInt
  if 8 < callSetupId.length then callSetupId.drop (callSetupId.length - 8) else callSetupId

/-- `OnSipMakeCallStateHandler::PreExecute` -/
def makeCallPreExecute (make : MakeCallData) (reading : Reading) (handler : CallHandler)
    (xmpp : Xmpp) : Bool × CallHandler × Xmpp :=
  let (contextId, xmpp) := xmpp.getUniqueId
  let toDial := Strings.cStr handler.stateData.remoteId
  let callSetupId := newCallSetupId reading
  let handler := handler.withStateData { handler.stateData with callSetupId := callSetupId }
  let ((toField, fromField), xmpp) := xmpp.callNumber toDial contextId callSetupId
  let handler := handler.withMake
    { make with contextId := contextId, toSipField := toField, fromSipField := fromField }
  (true, handler.assignNewState reading .makeCallSet none xmpp)

/-- The call setup id of the current state data, as `AddBranch` is given it -/
def callSetupIdArgument (handler : CallHandler) : Option TString :=
  some (Strings.cStr handler.stateData.callSetupId)

/-- Whether a To or From field of the event is the To or From field of the request -/
def matchSips (make : MakeCallData) (ace : ActiveCall) : Bool :=
  ace.toUri = make.toSipField ∨ ace.toUri = make.fromSipField ∨
    ace.fromUri = make.toSipField ∨ ace.fromUri = make.fromSipField

/-- The part of `OnSipMakeCallStateHandler::IsYourEvent` that follows an active-call event of
this call, once its branch has been added -/
def makeCallActiveCall (make : MakeCallData) (reading : Reading) (handler : CallHandler)
    (event : XmppEvent) (ace : ActiveCall) (xmpp : Xmpp) : Bool × CallHandler × Xmpp :=
  if make.fromSipField = ace.toUri ∧ ace.dialogState = .requested then
    -- The own phone rings; the event of another of the user's phones changes nothing more.
    if handler.state = .makeCallSet then
      let (handler, xmpp) := handler.assignNewState reading .makeCallRequested (some event) xmpp
      let handler := handler.withMake { make with inSipCallId := ace.sipCallid }
      (true, handler.assignCallStateData event.id ace false, xmpp)
    else (true, handler, xmpp.deleteEvent event)
  else if handler.state = .makeCallRequested ∧ make.fromSipField = ace.toUri then
    let state := if ace.dialogState = .confirmed then .makeCallRequestedAnswered else .dropped
    let (handler, xmpp) := handler.assignNewState reading state (some event) xmpp
    (true, handler.assignCallStateData event.id ace false, xmpp)
  else if handler.state = .makeCallRequestedAnswered ∧ make.toSipField = ace.toUri then
    let (handler, xmpp) :=
      if ace.dialogState = .created then
        let (handler, xmpp) :=
          handler.assignNewState reading .makeCallOutgoingCreated (some event) xmpp
        (handler.addBranch event.id ace true handler.callSetupIdArgument, xmpp)
      else handler.assignNewState reading .dropped (some event) xmpp
    let handler := handler.withMake { make with outSipCallId := ace.sipCallid, outId := event.id }
    (true, handler.assignCallStateData event.id ace true, xmpp)
  else if handler.state = .makeCallOutgoingCreated ∧ make.toSipField = ace.toUri then
    if ace.dialogState = .confirmed then
      let (handler, xmpp) := handler.assignNewState reading .connected (some event) xmpp
      let handler := handler.assignCallStateData event.id ace true
      (true, handler.addBranch event.id ace true handler.callSetupIdArgument, xmpp)
    else (true, handler.assignNewState reading .dropped (some event) xmpp)
  else (true, handler, xmpp.deleteEvent event)

/-- `OnSipMakeCallStateHandler::IsYourEvent` -/
def makeCallIsYourEvent (make : MakeCallData) (reading : Reading) (handler : CallHandler)
    (event : XmppEvent) (xmpp : Xmpp) : Bool × CallHandler × Xmpp :=
  match event.data with
  | .activeCall ace =>
    if !matchSips make ace || !handler.stateData.sameCallSetupId ace.callSetupId then
      (false, handler, xmpp)
    else if event.isError then
      (true, handler.assignNewState reading .dropped (some event) xmpp)
    else
      makeCallActiveCall make reading
        (handler.addBranch event.id ace false handler.callSetupIdArgument) event ace xmpp
  | .retractCall =>
    if handler.branches.hasId event.id then
      match handler.branches.checkDroppedCall handler.stateData event.id with
      | (true, callData, branches) =>
        let handler := { handler.withStateData callData with branches := branches }
        (true, handler.assignNewState reading .dropped (some event) xmpp)
      | (false, callData, branches) =>
        (true, { handler.withStateData callData with branches := branches },
          xmpp.deleteEvent event)
    else if make.outId = event.id then
      (true, handler.assignNewState reading .dropped (some event) xmpp)
    else
      -- An unknown id: the event is taken and deleted all the same.
      (true, handler, xmpp.deleteEvent event)
  | .callRequest _ =>
    if make.contextId = event.context then
      if event.isError then (true, handler.assignNewState reading .dropped (some event) xmpp)
      else (true, handler, xmpp.deleteEvent event)
    else (false, handler, xmpp)
  | _ => handler.dropRequestOrReply reading event xmpp

/-- `OnSipMakeCallStateHandler::IsStillExist` -/
def makeCallIsStillExist (reading : Reading) : CallHandler → Xmpp → Bool × CallHandler × Xmpp :=
  stillExists reading [(.makeCallSet, makeCallCreateTimeout),
    (.makeCallRequested, makeCallInboundRequestTimeout),
    (.makeCallRequestedAnswered, makeCallInboundAnsweredTimeout),
    (.makeCallOutgoingCreated, outboundRequestTimeout), (.connected, connectedCallTimeout),
    (.preDropCall, dropRequestTimeout)]

/-! ### The virtual functions of the call machine -/

/-- `IsYourEvent` of the handler's class -/
def isYourEvent (reading : Reading) (handler : CallHandler) (event : XmppEvent) (xmpp : Xmpp) :
    Bool × CallHandler × Xmpp :=
  match handler.kind with
  | .outgoing => handler.outgoingIsYourEvent reading event xmpp
  | .incoming => handler.incomingIsYourEvent reading event xmpp
  | .makeCall make => handler.makeCallIsYourEvent make reading event xmpp

/-- `IsStillExist` of the handler's class -/
def isStillExist (reading : Reading) (handler : CallHandler) (xmpp : Xmpp) :
    Bool × CallHandler × Xmpp :=
  match handler.kind with
  | .outgoing => outgoingIsStillExist reading handler xmpp
  | .incoming => incomingIsStillExist reading handler xmpp
  | .makeCall _ => makeCallIsStillExist reading handler xmpp

/-- `PreExecute` of the handler's class. Only the handler of a call that the program makes has
one. -/
def preExecute (reading : Reading) (handler : CallHandler) (xmpp : Xmpp) :
    Bool × CallHandler × Xmpp :=
  match handler.kind with
  | .makeCall make => handler.makeCallPreExecute make reading xmpp
  | _ => (false, handler, xmpp)

/-- `OnSipCallStateMachine::UnknownEvent` -/
def unknownEvent (reading : Reading) (event : XmppEvent) (xmpp : Xmpp) :
    Option CallHandler × Xmpp :=
  match event.data with
  | .activeCall ace =>
    if ace.dialogState = .created then
      let (callId, xmpp) := xmpp.getUniqueId
      (some (newOutgoing reading event ace callId), xmpp)
    else if ace.dialogState = .requested then
      let (callId, xmpp) := xmpp.getUniqueId
      (some (newIncoming reading event ace callId), xmpp)
    else (none, xmpp)
  | _ => (none, xmpp)

/-- `OnSipCallStateMachine::OnStateChange` -/
def onStateChange (handler : CallHandler) (reason : StateChangeReason) (xmpp : Xmpp) : Xmpp :=
  xmpp.callStateChange ⟨reason, handler.state, handler.stateData⟩

/-- `delete pStateHandler`: the event that the handler holds goes with it. -/
def deleteHandler (handler : CallHandler) (xmpp : Xmpp) : Xmpp :=
  xmpp.release handler.currentState.eventData

end CallHandler

/-- The virtual functions of `OnSipCallStateMachine` and of its handlers. No call handler takes
over `PollStateHandler`. -/
def callVirtuals : Virtuals CallHandler XmppEvent Xmpp where
  isYourEvent := CallHandler.isYourEvent
  isStillExist := CallHandler.isStillExist
  pollStateHandler := fun _ handler xmpp => (false, handler, xmpp)
  unknownEvent := CallHandler.unknownEvent
  onStateChange := CallHandler.onStateChange
  hasPreExecute := CallHandler.hasPreExecute
  preExecute := CallHandler.preExecute
  deleteEvent := Xmpp.deleteEvent
  deleteHandler := CallHandler.deleteHandler

end JnTapi
