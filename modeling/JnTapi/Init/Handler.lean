/-
This file models the handler that drives the login: it connects, authorizes,
subscribes to the call events, keeps the login alive and ends it.
-/

import JnTapi.StateMachineBase
import JnTapi.Init.Workers

namespace JnTapi

/-- `OnSipInitStateHandler` -/
structure InitStateHandler where
  /-- The states of the login have no data. -/
  currentState : StateItem InitStates XmppEvent Unit
  contextId : Long
  authTO : TimeOut
  ping : TimeOut
  enabledCallEvents : Bool
  subscribedSubid : TString
  unsubscribeContextId : Long
  reauthorizer : Option ReAuthorizeSubscribeWorker
deriving DecidableEq, Repr

namespace InitStateHandler

def generalCommunicationTimeout : Int := 15 * msecsInSec

def subscribeQuickRetry : Long := BitVec.ofInt 32 (30 * msecsInSec)

def subscribeTimeout : Long := BitVec.ofInt 32 (50 * msecsInMin)

def pingTimeout : Long := BitVec.ofInt 32 (5 * msecsInMin)

/-- `OnSipInitStateHandler(pOnSipXmpp)` -/
def new (reading : Reading) : InitStateHandler :=
  { currentState := ⟨.preLogin, none, (), reading.tickCount⟩
    contextId := 0
    authTO := TimeOut.new reading subscribeTimeout
    ping := TimeOut.new reading pingTimeout
    enabledCallEvents := false
    subscribedSubid := []
    unsubscribeContextId := 0
    reauthorizer := none }

/-- `getCurrentState` -/
def state (handler : InitStateHandler) : InitStates := handler.currentState.state

/-- `assignNewState`. The handler never holds an event. -/
def assignNewState (reading : Reading) (state : InitStates) (handler : InitStateHandler) :
    InitStateHandler :=
  { handler with currentState := handler.currentState.assignNewState reading state none }

/-! ### Events -/

/-- The answer to the connect, in `PreLogin` -/
def prelogon (success : Bool) (reading : Reading) (handler : InitStateHandler) (event : XmppEvent)
    (xmpp : Xmpp) : Bool × InitStateHandler × Xmpp :=
  if success then
    let (contextId, xmpp) := xmpp.getUniqueId
    let handler := { handler with contextId := contextId }
    let xmpp := (xmpp.emit .getSubscriptions).authorize contextId
    (true, handler.assignNewState reading .authorizing, xmpp.deleteEvent event)
  else (true, handler.assignNewState reading .loginError, xmpp.deleteEvent event)

/-- The answer to the authorization, in `Authorizing`. Only an `XmppAuthEvent` has the date that a
success reads. -/
def authorizing (reading : Reading) (handler : InitStateHandler) (event : XmppEvent)
    (xmpp : Xmpp) : Bool × InitStateHandler × Xmpp :=
  if !event.isError then
    let handler := handler.assignNewState reading .enablingCallEvents
    match event.data with
    | .auth expireDate =>
      (true, handler, (xmpp.subscribeCallEvents expireDate).deleteEvent event)
    | _ => (true, handler, xmpp.emit .nullRead)
  else (true, handler.assignNewState reading .authorizedError, xmpp.deleteEvent event)

/-- The answer to the subscription, in `EnablingCallEvents` -/
def enabling (subid : TString) (reading : Reading) (handler : InitStateHandler)
    (event : XmppEvent) (xmpp : Xmpp) : Bool × InitStateHandler × Xmpp :=
  if !event.isError then
    (true, { handler.assignNewState reading .ok with
        authTO := TimeOut.setMsecs reading subscribeTimeout
        enabledCallEvents := true
        subscribedSubid := subid }, xmpp.deleteEvent event)
  else
    (true, { handler.assignNewState reading .enabledCallError with enabledCallEvents := false },
      xmpp.deleteEvent event)

/-- The part of `OnSipInitStateHandler::IsYourEvent` that does not depend on the progress of the
login -/
def anyState (reading : Reading) (handler : InitStateHandler) (event : XmppEvent) (xmpp : Xmpp) :
    Bool × InitStateHandler × Xmpp :=
  match event.data with
  | .onDisconnect => (true, handler.assignNewState reading .disconnected, xmpp.deleteEvent event)
  | .shutdownRequest =>
    let (contextId, xmpp) := xmpp.unsubscribeCallEvents handler.subscribedSubid
    let handler := { handler with unsubscribeContextId := contextId }
    (true, handler.assignNewState reading .shuttingDown, xmpp.deleteEvent event)
  | .iqResult =>
    if handler.state = .shuttingDown ∧ event.context = handler.unsubscribeContextId then
      (true, handler.assignNewState reading .shutDown, xmpp.deleteEvent event)
    else (false, handler, xmpp)
  | _ => (false, handler, xmpp)

/-- `OnSipInitStateHandler::IsYourEvent` -/
def isYourEvent (reading : Reading) (handler : InitStateHandler) (event : XmppEvent)
    (xmpp : Xmpp) : Bool × InitStateHandler × Xmpp :=
  match handler.state, event.data with
  | .preLogin, .onConnect => handler.prelogon (!event.isError) reading event xmpp
  | .preLogin, .onDisconnect => handler.prelogon false reading event xmpp
  | .authorizing, .auth _ => handler.authorizing reading event xmpp
  | .authorizing, .iqResult =>
    if event.context = handler.contextId then handler.authorizing reading event xmpp
    else handler.anyState reading event xmpp
  | .enablingCallEvents, .subscribed _ subid => handler.enabling subid reading event xmpp
  | _, _ => handler.anyState reading event xmpp

/-! ### Polling -/

/-- `OnSipInitStateHandler::IsStillExist` -/
def isStillExist (handler : InitStateHandler) (xmpp : Xmpp) : Bool × InitStateHandler × Xmpp :=
  if handler.state = .shutDown then (false, { handler with reauthorizer := none }, xmpp)
  else (true, handler, xmpp)

/-- `OnSipInitStateHandler::_handleReAuthorize` -/
def handleReAuthorize (reading : Reading) (handler : InitStateHandler) (xmpp : Xmpp) :
    Bool × InitStateHandler × Xmpp :=
  match handler.reauthorizer with
  | none =>
    let (worker, xmpp) := (ReAuthorizeSubscribeWorker.new reading).execute xmpp
    (true, { handler with reauthorizer := some worker }, xmpp)
  | some worker =>
    match worker.isComplete xmpp with
    | (true, worker, xmpp) =>
      if worker.error then
        (true, { handler with
          authTO := TimeOut.setMsecs reading subscribeQuickRetry
          reauthorizer := none }, xmpp)
      else
        (true, { handler with
          subscribedSubid := worker.subid
          authTO := TimeOut.setMsecs reading subscribeTimeout
          reauthorizer := none }, xmpp)
    | (false, worker, xmpp) =>
      if generalCommunicationTimeout * 3 < worker.timer.msecs reading then
        (false, { handler.assignNewState reading .disconnected with reauthorizer := none }, xmpp)
      else (true, { handler with reauthorizer := some worker }, xmpp)

/-- The ping of `OnSipInitStateHandler::PollStateHandler` -/
def pollPing (reading : Reading) (handler : InitStateHandler) (xmpp : Xmpp) :
    InitStateHandler × Xmpp :=
  if handler.state = .ok ∧ handler.ping.isExpired reading then
    ({ handler with ping := handler.ping.reset reading }, xmpp.emit .ping)
  else (handler, xmpp)

/-- `OnSipInitStateHandler::CheckStateTimeout` -/
def checkStateTimeout (initState : InitStates) (timeout : Int) (reading : Reading)
    (handler : InitStateHandler) : Bool × InitStateHandler :=
  if handler.state = initState ∧
      timeout < handler.currentState.msecsSinceLastStateChange reading then
    (true, handler.assignNewState reading .disconnected)
  else (false, handler)

/-- The checks for the states of `OnSipInitStateHandler::PollStateHandler`, in order -/
def checkStateTimeouts (reading : Reading) :
    List InitStates → InitStateHandler → Bool × InitStateHandler
  | [], handler => (false, handler)
  | initState :: rest, handler =>
    match handler.checkStateTimeout initState generalCommunicationTimeout reading with
    | (true, handler) => (true, handler)
    | (false, handler) => checkStateTimeouts reading rest handler

/-- `OnSipInitStateHandler::PollStateHandler` -/
def pollStateHandler (reading : Reading) (handler : InitStateHandler) (xmpp : Xmpp) :
    Bool × InitStateHandler × Xmpp :=
  match (if handler.state = .ok ∧ handler.authTO.isExpired reading
    then handler.handleReAuthorize reading xmpp else (true, handler, xmpp)) with
  | (false, handler, xmpp) => (true, handler, xmpp)
  | (true, handler, xmpp) =>
    let (handler, xmpp) := handler.pollPing reading xmpp
    let (changed, handler) := checkStateTimeouts reading
      [.preLogin, .authorizing, .enablingCallEvents, .shuttingDown] handler
    (changed, handler, xmpp)

/-! ### The machine -/

/-- `OnSipInitStateMachine::OnStateChange` -/
def onStateChange (handler : InitStateHandler) (reason : StateChangeReason) (xmpp : Xmpp) : Xmpp :=
  xmpp.initStateChange ⟨reason, handler.state⟩

/-- The reply to the authorization of a renewal -/
def handleIqID (event : Option XmppEvent) (handler : InitStateHandler) : InitStateHandler :=
  { handler with reauthorizer := handler.reauthorizer.map (·.handleIqID event) }

/-- A message, as the worker of a renewal sees it -/
def handleMessage (event : XmppEvent) (handler : InitStateHandler) : InitStateHandler :=
  { handler with reauthorizer := handler.reauthorizer.map (·.handleMessage event) }

end InitStateHandler

/-- The virtual functions of `OnSipInitStateMachine` and of its handler. An unknown event creates
no handler, and the handler has no `PreExecute`. -/
def initVirtuals : Virtuals InitStateHandler XmppEvent Xmpp where
  isYourEvent := InitStateHandler.isYourEvent
  isStillExist := fun _ => InitStateHandler.isStillExist
  pollStateHandler := InitStateHandler.pollStateHandler
  unknownEvent := fun _ _ xmpp => (none, xmpp)
  onStateChange := InitStateHandler.onStateChange
  hasPreExecute := fun _ => false
  preExecute := fun _ handler xmpp => (false, handler, xmpp)
  deleteEvent := Xmpp.deleteEvent
  deleteHandler := fun _ xmpp => xmpp

end JnTapi
