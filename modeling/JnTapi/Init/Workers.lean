/-
This file models the workers that renew the authorization of a login while it is
in use: one authorizes, one subscribes to the call events, and one runs the two in
turn.

The replies to the workers reach them directly, past the state machines. A worker
that has been created is executed at once, so its handlers are registered as long
as it exists.
-/

import JnTapi.Xmpp

namespace JnTapi

/-! ### Authorizing -/

/-- `AuthorizeWorker` -/
structure AuthorizeWorker where
  complete : Bool
  error : Bool
  expireDate : TString
deriving DecidableEq, Repr

namespace AuthorizeWorker

/-- `AuthorizeWorker(onSipXmpp)` -/
def new : AuthorizeWorker := ⟨false, false, []⟩

/-- `AuthorizeWorker::Execute` -/
def execute (xmpp : Xmpp) : Xmpp :=
  let (contextId, xmpp) := xmpp.getUniqueId
  xmpp.authorize contextId

/-- `AuthorizeWorker::handleIqID`, with the event that the factory makes of the reply if it makes
one -/
def handleIqID (event : Option XmppEvent) (worker : AuthorizeWorker) : AuthorizeWorker :=
  match event with
  | some ⟨_, false, _, .auth expireDate⟩ => { worker with complete := true, expireDate := expireDate }
  | _ => { worker with complete := true, error := true }

end AuthorizeWorker

/-! ### Subscribing -/

/-- `EnableCallEventsWorker` -/
structure EnableCallEventsWorker where
  complete : Bool
  error : Bool
  subid : TString
deriving DecidableEq, Repr

namespace EnableCallEventsWorker

/-- `EnableCallEventsWorker(onSipXmpp)` -/
def new : EnableCallEventsWorker := ⟨false, false, []⟩

/-- `EnableCallEventsWorker::Execute` -/
def execute (expireTime : TString) (xmpp : Xmpp) : Xmpp := xmpp.subscribeCallEvents expireTime

/-- `EnableCallEventsWorker::handleMessage` -/
def handleMessage (event : XmppEvent) (worker : EnableCallEventsWorker) : EnableCallEventsWorker :=
  if worker.complete then worker
  else
    match event.data with
    | .subscribed isSubscribed subid =>
      if event.isError || !isSubscribed then { worker with complete := true, error := true }
      else { worker with complete := true, subid := Strings.cStr subid }
    | _ => worker

end EnableCallEventsWorker

/-! ### One after the other -/

/-- `ReAuthorizeSubscribeWorker::STATE`, with the worker of the state -/
inductive ReAuthorizeState
  | none
  | authorizing (authorizer : AuthorizeWorker)
  | subscribing (subscriber : EnableCallEventsWorker)
deriving DecidableEq, Repr

/-- `ReAuthorizeSubscribeWorker` -/
structure ReAuthorizeSubscribeWorker where
  timer : TimeElapsed
  complete : Bool
  error : Bool
  subid : TString
  state : ReAuthorizeState
deriving DecidableEq, Repr

namespace ReAuthorizeSubscribeWorker

/-- `ReAuthorizeSubscribeWorker(onSipXmpp)` -/
def new (reading : Reading) : ReAuthorizeSubscribeWorker :=
  ⟨TimeElapsed.reset reading, false, false, [], .none⟩

/-- `ReAuthorizeSubscribeWorker::Execute` -/
def execute (worker : ReAuthorizeSubscribeWorker) (xmpp : Xmpp) :
    ReAuthorizeSubscribeWorker × Xmpp :=
  ({ worker with state := .authorizing AuthorizeWorker.new }, AuthorizeWorker.execute xmpp)

/-- `ReAuthorizeSubscribeWorker::IsComplete` -/
def isComplete (worker : ReAuthorizeSubscribeWorker) (xmpp : Xmpp) :
    Bool × ReAuthorizeSubscribeWorker × Xmpp :=
  if worker.complete then (true, worker, xmpp)
  else
    match worker.state with
    | .authorizing authorizer =>
      if !authorizer.complete then (false, worker, xmpp)
      else if authorizer.error then (true, { worker with error := true, complete := true }, xmpp)
      else
        (false, { worker with state := .subscribing EnableCallEventsWorker.new },
          EnableCallEventsWorker.execute authorizer.expireDate xmpp)
    | .subscribing subscriber =>
      if !subscriber.complete then (false, worker, xmpp)
      else
        (true, { worker with error := subscriber.error, complete := true, subid := subscriber.subid },
          xmpp)
    | .none => (false, worker, xmpp)

/-- The reply to the authorization, when it is under way. -/
def handleIqID (event : Option XmppEvent) (worker : ReAuthorizeSubscribeWorker) :
    ReAuthorizeSubscribeWorker :=
  match worker.state with
  | .authorizing authorizer => { worker with state := .authorizing (authorizer.handleIqID event) }
  | _ => worker

/-- A message, when the subscription is under way -/
def handleMessage (event : XmppEvent) (worker : ReAuthorizeSubscribeWorker) :
    ReAuthorizeSubscribeWorker :=
  match worker.state with
  | .subscribing subscriber => { worker with state := .subscribing (subscriber.handleMessage event) }
  | _ => worker

theorem loginOnly_isComplete (worker : ReAuthorizeSubscribeWorker) (xmpp : Xmpp) :
    xmpp.LoginOnly (worker.isComplete xmpp).2.2 := by
  unfold isComplete
  split_ifs
  · exact Xmpp.LoginOnly.refl xmpp
  · split
    · split_ifs
      · exact Xmpp.LoginOnly.refl xmpp
      · exact Xmpp.LoginOnly.refl xmpp
      · exact Xmpp.loginOnly_emit xmpp rfl rfl
    · split_ifs
      · exact Xmpp.LoginOnly.refl xmpp
      · exact Xmpp.LoginOnly.refl xmpp
    · exact Xmpp.LoginOnly.refl xmpp

theorem loginOnly_execute (worker : ReAuthorizeSubscribeWorker) (xmpp : Xmpp) :
    xmpp.LoginOnly (worker.execute xmpp).2 :=
  xmpp.loginOnly_getUniqueId.trans (Xmpp.loginOnly_authorize _ _)

end ReAuthorizeSubscribeWorker

end JnTapi
