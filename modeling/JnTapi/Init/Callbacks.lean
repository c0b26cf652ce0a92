/-
This file models what gloox keeps of the workers of a renewal, and proves when
every worker that it keeps is alive.

gloox keeps raw pointers: of an authorization until its reply arrives, of a
subscription until the subscribe request is answered, and of a handler of messages
until it is removed. The destructor of a worker removes the handler of messages
and nothing else.
-/

import JnTapi.Call.System
import JnTapi.Init.Session

namespace JnTapi

open Library

/-- A worker, by the number of those that were created before it -/
abbrev WorkerId := Nat

/-- The pointers to workers that gloox keeps -/
structure GlooxHandlers where
  /-- Those in `ClientBase::m_iqIDHandlers` -/
  iqIDHandlers : List WorkerId
  /-- Those in `PubSub::Manager::m_resultHandlerTrackMap` -/
  resultHandlers : List WorkerId
  /-- Those in `ClientBase::m_messageHandlers` -/
  messageHandlers : List WorkerId
deriving DecidableEq, Repr

/-- The workers that the `ReAuthorizeSubscribeWorker` of the handler owns, with gloox. A worker is
alive as long as it is owned. -/
structure WorkerObjects where
  /-- `_authorizer` -/
  authorizer : Option WorkerId
  /-- `_subscriber` -/
  subscriber : Option WorkerId
  created : Nat
  gloox : GlooxHandlers
deriving DecidableEq, Repr

namespace WorkerObjects

/-! ### The objects -/

/-- `_authorizer.reset(NULL)` -/
def resetAuthorizer (objects : WorkerObjects) : WorkerObjects :=
  { objects with authorizer := none }

/-- `_subscriber.reset(NULL)`, where `~EnableCallEventsWorker` calls `_unregister` -/
def resetSubscriber (objects : WorkerObjects) : WorkerObjects :=
  match objects.subscriber with
  | none => objects
  | some worker =>
    { objects with
      subscriber := none
      gloox.messageHandlers := objects.gloox.messageHandlers.filter (· ≠ worker) }

/-- `_authorizer` is set to a new `AuthorizeWorker`, which is executed. -/
def executeAuthorizer (objects : WorkerObjects) : WorkerObjects :=
  { objects with
    authorizer := some objects.created
    created := objects.created + 1
    gloox.iqIDHandlers := objects.gloox.iqIDHandlers ++ [objects.created] }

/-- `_subscriber` is set to a new `EnableCallEventsWorker`, which is executed. -/
def executeSubscriber (objects : WorkerObjects) : WorkerObjects :=
  let objects := objects.resetSubscriber
  { objects with
    subscriber := some objects.created
    created := objects.created + 1
    gloox.messageHandlers := objects.gloox.messageHandlers ++ [objects.created]
    gloox.resultHandlers := objects.gloox.resultHandlers ++ [objects.created] }

/-- `~ReAuthorizeSubscribeWorker` -/
def deleteReauthorizer (objects : WorkerObjects) : WorkerObjects :=
  objects.resetSubscriber.resetAuthorizer

/-- What `ReAuthorizeSubscribeWorker::IsComplete` does to the workers -/
def isComplete (worker : ReAuthorizeSubscribeWorker) (objects : WorkerObjects) : WorkerObjects :=
  if worker.complete then objects
  else
    match worker.state with
    | .authorizing authorizer =>
      if !authorizer.complete then objects
      else if authorizer.error then objects.resetAuthorizer
      else objects.resetAuthorizer.executeSubscriber
    | .subscribing subscriber =>
      if !subscriber.complete then objects else objects.resetSubscriber
    | .none => objects

/-- What `OnSipInitStateHandler::_handleReAuthorize` does to the workers -/
def handleReAuthorize (reading : Reading) (handler : InitStateHandler) (xmpp : Xmpp)
    (objects : WorkerObjects) : WorkerObjects :=
  match handler.reauthorizer with
  | none => objects.executeAuthorizer
  | some worker =>
    let objects := objects.isComplete worker
    if (worker.isComplete xmpp).1 then objects.deleteReauthorizer
    else if InitStateHandler.generalCommunicationTimeout * 3 < worker.timer.msecs reading then
      objects.deleteReauthorizer
    else objects

/-- What `OnSipInitStateHandler::PollStateHandler` does to the workers -/
def pollStateHandler (reading : Reading) (handler : InitStateHandler) (xmpp : Xmpp)
    (objects : WorkerObjects) : WorkerObjects :=
  if handler.state = .ok ∧ handler.authTO.isExpired reading then
    objects.handleReAuthorize reading handler xmpp
  else objects

/-- Every worker that gloox keeps is alive. -/
structure CallbacksLive (objects : WorkerObjects) : Prop where
  iqIDHandlers : ∀ worker ∈ objects.gloox.iqIDHandlers, objects.authorizer = some worker
  resultHandlers : ∀ worker ∈ objects.gloox.resultHandlers, objects.subscriber = some worker
  messageHandlers : ∀ worker ∈ objects.gloox.messageHandlers, objects.subscriber = some worker

end WorkerObjects

/-! ### The handler and gloox -/

/-- The handler of the login, if there is one, with its workers -/
structure LoginWorkers where
  handler : Option InitStateHandler
  objects : WorkerObjects
deriving DecidableEq, Repr

namespace LoginWorkers

/-- One thing that happens to the handler, to a worker or to gloox -/
inductive Action
  | addStateHandler (reading : Reading)
  /-- `IsYourEvent` of the handler -/
  | event (reading : Reading) (event : XmppEvent) (xmpp : Xmpp)
  /-- `_checkStateHandlersExist`, which deletes a handler that does not exist any more -/
  | check (xmpp : Xmpp)
  | poll (reading : Reading) (xmpp : Xmpp)
  /-- The reply to an authorization, with the event that the factory makes of it -/
  | authorizeReply (worker : WorkerId) (event : Option XmppEvent)
  /-- The reply to a subscribe request. The manager calls the handler when it has a
  subscription. -/
  | subscribeReply (worker : WorkerId) (subscription : Bool)
  /-- A message, with the event that the factory makes of it -/
  | message (event : XmppEvent)
  | removeStateHandlers
  /-- `m_gloox.reset` deletes the client with all that it keeps. -/
  | resetGloox

/-- At first there is no handler and no client. -/
def start : LoginWorkers := ⟨none, ⟨none, none, 0, ⟨[], [], []⟩⟩⟩

/-- One step; `none` when there is no handler to call or no such request, or when a worker is called
that is not alive. -/
def step (login : LoginWorkers) : Action → Option LoginWorkers
  | .addStateHandler reading =>
    match login.handler with
    | none => some { login with handler := some (InitStateHandler.new reading) }
    | some _ => none
  | .event reading event xmpp => login.handler.map fun handler =>
    { login with handler := some (handler.isYourEvent reading event xmpp).2.1 }
  | .check xmpp => login.handler.map fun handler =>
    match handler.isStillExist xmpp with
    | (true, handler, _) => { login with handler := some handler }
    | (false, _, _) => ⟨none, login.objects.deleteReauthorizer⟩
  | .poll reading xmpp => login.handler.map fun handler =>
    ⟨some (handler.pollStateHandler reading xmpp).2.1,
      login.objects.pollStateHandler reading handler xmpp⟩
  | .authorizeReply worker event =>
    if worker ∈ login.objects.gloox.iqIDHandlers ∧ login.objects.authorizer = some worker then
      some ⟨login.handler.map (·.handleIqID event), { login.objects with
        gloox.iqIDHandlers := login.objects.gloox.iqIDHandlers.erase worker }⟩
    else none
  | .subscribeReply worker subscription =>
    if worker ∈ login.objects.gloox.resultHandlers ∧
        (subscription → login.objects.subscriber = some worker) then
      some { login with
        objects.gloox.resultHandlers := login.objects.gloox.resultHandlers.erase worker }
    else none
  | .message event =>
    if ∀ worker ∈ login.objects.gloox.messageHandlers,
        login.objects.subscriber = some worker then
      some { login with
        handler :=
          if login.objects.gloox.messageHandlers = [] then login.handler
          else login.handler.map (·.handleMessage event) }
    else none
  | .removeStateHandlers => some ⟨none, login.objects.deleteReauthorizer⟩
  | .resetGloox => some { login with objects.gloox := ⟨[], [], []⟩ }

end LoginWorkers

/-! ### The worker of the handler -/

namespace InitStateHandler

theorem reauthorizer_anyState (reading : Reading) (handler : InitStateHandler) (event : XmppEvent)
    (xmpp : Xmpp) :
    (handler.anyState reading event xmpp).2.1.reauthorizer = handler.reauthorizer := by
  unfold anyState
  split
  · rfl
  · rfl
  · split_ifs <;> rfl
  · rfl

theorem reauthorizer_isYourEvent (reading : Reading) (handler : InitStateHandler)
    (event : XmppEvent) (xmpp : Xmpp) :
    (handler.isYourEvent reading event xmpp).2.1.reauthorizer = handler.reauthorizer := by
  have prelogon : ∀ success,
      (handler.prelogon success reading event xmpp).2.1.reauthorizer = handler.reauthorizer := by
    intro success
    unfold InitStateHandler.prelogon
    split_ifs <;> rfl
  have authorizing :
      (handler.authorizing reading event xmpp).2.1.reauthorizer = handler.reauthorizer := by
    unfold InitStateHandler.authorizing
    split_ifs
    · split <;> rfl
    · rfl
  unfold isYourEvent
  split
  · exact prelogon _
  · exact prelogon _
  · exact authorizing
  · split_ifs
    · exact authorizing
    · exact reauthorizer_anyState reading handler event xmpp
  · unfold enabling
    split_ifs <;> rfl
  · exact reauthorizer_anyState reading handler event xmpp

/-- A renewal is over when it is complete or late. -/
theorem reauthorizer_handleReAuthorize (reading : Reading) {handler : InitStateHandler}
    (xmpp : Xmpp) {worker : ReAuthorizeSubscribeWorker} (own : handler.reauthorizer = some worker) :
    (handler.handleReAuthorize reading xmpp).2.1.reauthorizer =
      if (worker.isComplete xmpp).1 then none
      else if generalCommunicationTimeout * 3 < worker.timer.msecs reading then none
      else some (worker.isComplete xmpp).2.1 := by
  have timer : (worker.isComplete xmpp).2.1.timer = worker.timer := by
    unfold ReAuthorizeSubscribeWorker.isComplete
    split_ifs
    · rfl
    · cases worker.state with
      | none => rfl
      | _ => dsimp only; split_ifs <;> rfl
  unfold handleReAuthorize
  simp only [own]
  rcases outcome : worker.isComplete xmpp with ⟨complete, next, later⟩
  rw [outcome] at timer
  cases complete with
  | true =>
    rw [if_pos rfl]
    dsimp only
    split_ifs <;> rfl
  | false =>
    simp only [Bool.false_eq_true, if_false, ← timer]
    split_ifs <;> rfl

/-- A poll goes on with the renewal when it is due, and does nothing else to it. -/
theorem reauthorizer_pollStateHandler (reading : Reading) (handler : InitStateHandler)
    (xmpp : Xmpp) :
    (handler.pollStateHandler reading xmpp).2.1.reauthorizer =
      if handler.state = .ok ∧ handler.authTO.isExpired reading then
        (handler.handleReAuthorize reading xmpp).2.1.reauthorizer
      else handler.reauthorizer := by
  have later : ∀ (next : InitStateHandler) (after : Xmpp),
      (checkStateTimeouts reading [.preLogin, .authorizing, .enablingCallEvents, .shuttingDown]
        (next.pollPing reading after).1).2.reauthorizer = next.reauthorizer := by
    intro next after
    have pinged : (next.pollPing reading after).1.reauthorizer = next.reauthorizer := by
      unfold pollPing
      split_ifs <;> rfl
    rcases checkStateTimeouts_cases reading
      [.preLogin, .authorizing, .enablingCallEvents, .shuttingDown]
      (next.pollPing reading after).1 with same | ⟨-, timedOut⟩
    · rw [same]
      exact pinged
    · rw [timedOut]
      exact pinged
  unfold pollStateHandler
  split_ifs with due
  · rcases handler.handleReAuthorize reading xmpp with ⟨going, next, after⟩
    cases going with
    | false => rfl
    | true => exact later next after
  · exact later handler xmpp

end InitStateHandler

/-! ### When no reply is outstanding -/

/-- No reply to a worker is outstanding. -/
def GlooxHandlers.Answered (gloox : GlooxHandlers) : Prop :=
  gloox.iqIDHandlers = [] ∧ gloox.resultHandlers = []

/-- A poll ends such a renewal only when its replies have arrived. A late one ends before the
authorization is answered, and also right after the subscribe request is sent; one whose
subscription has been confirmed or is late ends before the subscribe request is answered. -/
def ReAuthorizeSubscribeWorker.EndsAnswered (late : Prop) (gloox : GlooxHandlers)
    (worker : ReAuthorizeSubscribeWorker) : Prop :=
  match worker.state with
  | .authorizing authorizer =>
    late → gloox.iqIDHandlers = [] ∧ (authorizer.complete = true → authorizer.error = true)
  | .subscribing subscriber => subscriber.complete = true ∨ late → gloox.resultHandlers = []
  | .none => True

/-- A poll is given only renewals that it ends with their replies, and a handler is removed only
when no reply is outstanding. -/
def LoginWorkers.Answered (login : LoginWorkers) : LoginWorkers.Action → Prop
  | .poll reading _ => ∀ handler ∈ login.handler,
      handler.state = .ok ∧ handler.authTO.isExpired reading = true →
      ∀ worker ∈ handler.reauthorizer, worker.EndsAnswered
        (InitStateHandler.generalCommunicationTimeout * 3 < worker.timer.msecs reading)
        login.objects.gloox
  | .check _ => ∀ handler ∈ login.handler, handler.state = .shutDown → login.objects.gloox.Answered
  | .removeStateHandlers => login.objects.gloox.Answered
  | _ => True

/-! ### Owning the workers -/

namespace WorkerObjects

/-- The workers are those of the renewal, and gloox keeps no others. -/
def Owns (objects : WorkerObjects) : Option ReAuthorizeSubscribeWorker → Prop
  | none => objects.authorizer = none ∧ objects.subscriber = none ∧ objects.gloox = ⟨[], [], []⟩
  | some worker => worker.complete = false ∧
    match worker.state with
    | .authorizing authorizer => objects.subscriber = none ∧
        ∃ id, objects.authorizer = some id ∧ (objects.gloox = ⟨[], [], []⟩ ∨
          authorizer.complete = false ∧ objects.gloox = ⟨[id], [], []⟩)
    | .subscribing _ => objects.authorizer = none ∧
        ∃ id, objects.subscriber = some id ∧ ∃ results messages,
          objects.gloox = ⟨[], results, messages⟩ ∧ (results = [] ∨ results = [id]) ∧
            (messages = [] ∨ messages = [id])
    | .none => False

/-- The objects without their workers keep nothing of them exactly when no reply is outstanding. -/
theorem callbacksLive_iff_of_none {objects : WorkerObjects} (noAuthorizer : objects.authorizer = none)
    (noSubscriber : objects.subscriber = none) :
    objects.CallbacksLive ↔ objects.gloox = ⟨[], [], []⟩ := by
  constructor
  · intro live
    have empty : ∀ {workers : List WorkerId} {owner : Option WorkerId}, owner = none →
        (∀ worker ∈ workers, owner = some worker) → workers = [] := by
      rintro workers owner rfl all
      exact List.eq_nil_iff_forall_not_mem.mpr fun worker member => nomatch all worker member
    have iqs := empty noAuthorizer live.iqIDHandlers
    have results := empty noSubscriber live.resultHandlers
    have messages := empty noSubscriber live.messageHandlers
    rcases objects with ⟨_, _, _, _, _, _⟩
    dsimp only at iqs results messages
    rw [iqs, results, messages]
  · intro nothing
    refine ⟨?_, ?_, ?_⟩ <;> rw [nothing] <;> exact fun worker member => absurd member List.not_mem_nil

theorem Owns.callbacksLive {objects : WorkerObjects} {owner : Option ReAuthorizeSubscribeWorker}
    (owns : objects.Owns owner) : objects.CallbacksLive := by
  cases owner with
  | none => exact (callbacksLive_iff_of_none owns.1 owns.2.1).mpr owns.2.2
  | some worker =>
    obtain ⟨-, owned⟩ := owns
    cases state : worker.state with
    | none =>
      rw [state] at owned
      exact owned.elim
    | authorizing authorizer =>
      rw [state] at owned
      obtain ⟨-, id, mine, nothing | ⟨-, requested⟩⟩ := owned
      · exact ⟨by simp [nothing], by simp [nothing], by simp [nothing]⟩
      · exact ⟨by simp [requested, mine], by simp [requested], by simp [requested]⟩
    | subscribing subscriber =>
      rw [state] at owned
      obtain ⟨-, id, mine, results, messages, kept, ofResults, ofMessages⟩ := owned
      refine ⟨by simp [kept], fun worker member => ?_, fun worker member => ?_⟩
      · rw [kept] at member
        rcases ofResults with rfl | rfl
        · cases member
        · rw [mine, List.mem_singleton.mp member]
      · rw [kept] at member
        rcases ofMessages with rfl | rfl
        · cases member
        · rw [mine, List.mem_singleton.mp member]

/-- What is left when the workers are deleted: the replies that are outstanding. -/
theorem Owns.deleteReauthorizer {objects : WorkerObjects}
    {owner : Option ReAuthorizeSubscribeWorker} (owns : objects.Owns owner) :
    objects.deleteReauthorizer = ⟨none, none, objects.created,
      ⟨objects.gloox.iqIDHandlers, objects.gloox.resultHandlers, []⟩⟩ := by
  rcases objects with ⟨authorizer, subscriber, created, gloox⟩
  cases owner with
  | none =>
    obtain ⟨rfl, rfl, rfl⟩ := owns
    rfl
  | some worker =>
    obtain ⟨-, owned⟩ := owns
    cases state : worker.state with
    | none =>
      rw [state] at owned
      exact owned.elim
    | authorizing authorizer =>
      rw [state] at owned
      obtain ⟨rfl, id, rfl, rfl | ⟨-, rfl⟩⟩ := owned
      · rfl
      · rfl
    | subscribing subscriber =>
      rw [state] at owned
      obtain ⟨rfl, id, rfl, results, messages, rfl, -, rfl | rfl⟩ := owned
      · rfl
      · simp [WorkerObjects.deleteReauthorizer, resetSubscriber, resetAuthorizer]

/-- The workers may be deleted exactly when no reply is outstanding. -/
theorem Owns.delete_iff {objects : WorkerObjects} {owner : Option ReAuthorizeSubscribeWorker}
    (owns : objects.Owns owner) :
    (objects.deleteReauthorizer.CallbacksLive ↔ objects.gloox.Answered) ∧
      (objects.gloox.Answered → objects.deleteReauthorizer.Owns none) := by
  rw [owns.deleteReauthorizer]
  have nothing : (⟨objects.gloox.iqIDHandlers, objects.gloox.resultHandlers, []⟩ : GlooxHandlers) =
      ⟨[], [], []⟩ ↔ objects.gloox.Answered := by
    simp [GlooxHandlers.Answered]
  exact ⟨(callbacksLive_iff_of_none rfl rfl).trans nothing,
    fun answered => ⟨rfl, rfl, nothing.mpr answered⟩⟩

/-- A renewal that is not complete goes on with its workers, and one that is complete has deleted
the last of them and leaves the replies that are outstanding. -/
theorem Owns.isComplete {objects : WorkerObjects} {worker : ReAuthorizeSubscribeWorker}
    (owns : objects.Owns (some worker)) (xmpp : Xmpp) :
    ((worker.isComplete xmpp).1 = false ∧
      (objects.isComplete worker).Owns (some (worker.isComplete xmpp).2.1)) ∨
    ((worker.isComplete xmpp).1 = true ∧
      (objects.isComplete worker).deleteReauthorizer = objects.deleteReauthorizer ∧
      ((objects.isComplete worker).gloox.Answered ↔ objects.gloox.Answered)) := by
  have kept := owns
  obtain ⟨timer, complete, error, subid, state⟩ := worker
  obtain ⟨rfl, owned⟩ := owns
  cases state with
  | none => exact owned.elim
  | authorizing authorizer =>
    obtain ⟨noSubscriber, id, mine, outstanding⟩ := owned
    obtain ⟨answered, failed, expireDate⟩ := authorizer
    cases answered with
    | false => exact Or.inl ⟨rfl, kept⟩
    | true =>
      have nothing : objects.gloox = ⟨[], [], []⟩ :=
        outstanding.resolve_right fun requested => by cases requested.1
      cases failed with
      | true =>
        refine Or.inr ⟨rfl, ?_, Iff.rfl⟩
        show objects.resetAuthorizer.deleteReauthorizer = _
        simp [WorkerObjects.deleteReauthorizer, resetSubscriber, resetAuthorizer, noSubscriber]
      | false =>
        have sent : objects.resetAuthorizer.executeSubscriber = ⟨none, some objects.created,
            objects.created + 1, ⟨[], [objects.created], [objects.created]⟩⟩ := by
          simp [executeSubscriber, resetSubscriber, resetAuthorizer, noSubscriber, nothing]
        refine Or.inl ⟨rfl, ?_⟩
        show objects.resetAuthorizer.executeSubscriber.Owns
          (some ⟨timer, false, error, subid, .subscribing EnableCallEventsWorker.new⟩)
        rw [sent]
        exact ⟨rfl, rfl, _, rfl, _, _, rfl, Or.inr rfl, Or.inr rfl⟩
  | subscribing subscriber =>
    obtain ⟨noAuthorizer, id, mine, -⟩ := owned
    obtain ⟨confirmed, failed, subscribed⟩ := subscriber
    cases confirmed with
    | false => exact Or.inl ⟨rfl, kept⟩
    | true =>
      refine Or.inr ⟨rfl, ?_, ?_⟩
      · show objects.resetSubscriber.deleteReauthorizer = _
        simp [WorkerObjects.deleteReauthorizer, resetSubscriber, resetAuthorizer, mine]
      · show objects.resetSubscriber.gloox.Answered ↔ _
        simp [GlooxHandlers.Answered, resetSubscriber, mine]

/-- What is outstanding when a renewal that is over or late is deleted -/
theorem Owns.endsAnswered_iff {objects : WorkerObjects} {worker : ReAuthorizeSubscribeWorker}
    (owns : objects.Owns (some worker)) (xmpp : Xmpp) (late : Prop) :
    worker.EndsAnswered late objects.gloox ↔
      ((worker.isComplete xmpp).1 = true ∨ late → (objects.isComplete worker).gloox.Answered) := by
  obtain ⟨timer, complete, error, subid, state⟩ := worker
  obtain ⟨rfl, owned⟩ := owns
  unfold ReAuthorizeSubscribeWorker.EndsAnswered GlooxHandlers.Answered WorkerObjects.isComplete
    ReAuthorizeSubscribeWorker.isComplete
  cases state with
  | none => exact owned.elim
  | authorizing authorizer =>
    obtain ⟨noSubscriber, id, mine, outstanding⟩ := owned
    obtain ⟨answered, failed, expireDate⟩ := authorizer
    cases answered with
    | false =>
      rcases outstanding with nothing | ⟨-, requested⟩
      · simp [nothing]
      · simp [requested]
    | true =>
      have nothing : objects.gloox = ⟨[], [], []⟩ :=
        outstanding.resolve_right fun requested => by cases requested.1
      cases failed with
      | true => simp [resetAuthorizer, nothing]
      | false => simp [executeSubscriber, resetSubscriber, resetAuthorizer, noSubscriber, nothing]
  | subscribing subscriber =>
    obtain ⟨noAuthorizer, id, mine, results, messages, kept, -⟩ := owned
    obtain ⟨confirmed, failed, subscribed⟩ := subscriber
    cases confirmed with
    | false => simp [kept]
    | true => simp [resetSubscriber, mine, kept]

/-- One go at the renewal -/
theorem Owns.handleReAuthorize {objects : WorkerObjects} {handler : InitStateHandler}
    (owns : objects.Owns handler.reauthorizer) (reading : Reading) (xmpp : Xmpp) :
    ((objects.handleReAuthorize reading handler xmpp).CallbacksLive →
      ∀ worker ∈ handler.reauthorizer, worker.EndsAnswered
        (InitStateHandler.generalCommunicationTimeout * 3 < worker.timer.msecs reading)
        objects.gloox) ∧
    ((∀ worker ∈ handler.reauthorizer, worker.EndsAnswered
        (InitStateHandler.generalCommunicationTimeout * 3 < worker.timer.msecs reading)
        objects.gloox) →
      (objects.handleReAuthorize reading handler xmpp).Owns
        (handler.handleReAuthorize reading xmpp).2.1.reauthorizer) := by
  unfold WorkerObjects.handleReAuthorize
  cases own : handler.reauthorizer with
  | none =>
    rw [own] at owns
    obtain ⟨noAuthorizer, noSubscriber, nothing⟩ := owns
    have requested : objects.executeAuthorizer =
        ⟨some objects.created, none, objects.created + 1, ⟨[objects.created], [], []⟩⟩ := by
      simp [executeAuthorizer, noSubscriber, nothing]
    refine ⟨fun _ worker member => (nomatch member), fun _ => ?_⟩
    unfold InitStateHandler.handleReAuthorize
    rw [own]
    show objects.executeAuthorizer.Owns
      (some ((ReAuthorizeSubscribeWorker.new reading).execute xmpp).1)
    rw [requested]
    exact ⟨rfl, rfl, _, rfl, Or.inr ⟨rfl, rfl⟩⟩
  | some worker =>
    rw [own] at owns
    have only : ∀ {holds : ReAuthorizeSubscribeWorker → Prop},
        (∀ other ∈ some worker, holds other) ↔ holds worker := by simp
    rw [only, owns.endsAnswered_iff xmpp,
      InitStateHandler.reauthorizer_handleReAuthorize reading xmpp own]
    dsimp only
    rcases owns.isComplete xmpp with ⟨going, goes⟩ | ⟨complete, deleted, same⟩
    · rw [going]
      simp only [Bool.false_eq_true, if_false, false_or]
      split_ifs with late
      · refine ⟨fun live _ => goes.delete_iff.1.mp live, fun answered => ?_⟩
        exact goes.delete_iff.2 (answered late)
      · exact ⟨fun _ isLate => absurd isLate late, fun _ => goes⟩
    · rw [complete, if_pos rfl, if_pos rfl, deleted, same]
      refine ⟨fun live _ => owns.delete_iff.1.mp live, fun answered => ?_⟩
      exact owns.delete_iff.2 (answered (Or.inl rfl))

section replies

variable {objects : WorkerObjects} {owner : Option ReAuthorizeSubscribeWorker}

/-- The reply to an authorization leaves nothing of it. -/
theorem Owns.authorizeReply (owns : objects.Owns owner) {worker : WorkerId}
    (member : worker ∈ objects.gloox.iqIDHandlers) (event : Option XmppEvent) :
    Owns { objects with gloox.iqIDHandlers := objects.gloox.iqIDHandlers.erase worker }
      (owner.map (·.handleIqID event)) := by
  cases owner with
  | none =>
    rw [owns.2.2] at member
    cases member
  | some renewal =>
    obtain ⟨timer, complete, error, subid, state⟩ := renewal
    obtain ⟨rfl, owned⟩ := owns
    cases state with
    | none => exact owned.elim
    | authorizing authorizer =>
      obtain ⟨noSubscriber, id, mine, nothing | ⟨-, requested⟩⟩ := owned
      · rw [nothing] at member
        cases member
      · rw [requested] at member
        obtain rfl := List.mem_singleton.mp member
        exact ⟨rfl, noSubscriber, worker, mine, Or.inl (by simp [requested])⟩
    | subscribing subscriber =>
      obtain ⟨-, id, -, results, messages, kept, -⟩ := owned
      rw [kept] at member
      cases member

/-- The reply to a subscribe request leaves the renewal as it is. -/
theorem Owns.subscribeReply (owns : objects.Owns owner) {worker : WorkerId}
    (member : worker ∈ objects.gloox.resultHandlers) :
    Owns { objects with gloox.resultHandlers := objects.gloox.resultHandlers.erase worker }
      owner := by
  cases owner with
  | none =>
    rw [owns.2.2] at member
    cases member
  | some renewal =>
    obtain ⟨timer, complete, error, subid, state⟩ := renewal
    obtain ⟨rfl, owned⟩ := owns
    cases state with
    | none => exact owned.elim
    | authorizing authorizer =>
      obtain ⟨-, id, -, nothing | ⟨-, requested⟩⟩ := owned
      · rw [nothing] at member
        cases member
      · rw [requested] at member
        cases member
    | subscribing subscriber =>
      obtain ⟨noAuthorizer, id, mine, results, messages, kept, ofResults, ofMessages⟩ := owned
      rw [kept] at member
      rcases ofResults with rfl | rfl
      · cases member
      · obtain rfl := List.mem_singleton.mp member
        exact ⟨rfl, noAuthorizer, worker, mine, [], messages, by simp [kept], Or.inl rfl, ofMessages⟩

/-- A message leaves the workers as they are. -/
theorem Owns.message (owns : objects.Owns owner) (event : XmppEvent) :
    objects.Owns (owner.map (·.handleMessage event)) := by
  cases owner with
  | none => exact owns
  | some renewal =>
    obtain ⟨timer, complete, error, subid, state⟩ := renewal
    obtain ⟨rfl, owned⟩ := owns
    cases state with
    | none => exact owned.elim
    | authorizing authorizer => exact ⟨rfl, owned⟩
    | subscribing subscriber => exact ⟨rfl, owned⟩

theorem Owns.resetGloox (owns : objects.Owns owner) :
    Owns { objects with gloox := ⟨[], [], []⟩ } owner := by
  cases owner with
  | none => exact ⟨owns.1, owns.2.1, rfl⟩
  | some renewal =>
    obtain ⟨timer, complete, error, subid, state⟩ := renewal
    obtain ⟨rfl, owned⟩ := owns
    cases state with
    | none => exact owned.elim
    | authorizing authorizer =>
      obtain ⟨noSubscriber, id, mine, -⟩ := owned
      exact ⟨rfl, noSubscriber, id, mine, Or.inl rfl⟩
    | subscribing subscriber =>
      obtain ⟨noAuthorizer, id, mine, -⟩ := owned
      exact ⟨rfl, noAuthorizer, id, mine, [], [], rfl, Or.inl rfl, Or.inl rfl⟩

end replies

end WorkerObjects

/-! ### The steps -/

namespace LoginWorkers

/-- The workers are those of the handler, and gloox keeps no others. -/
def Coherent (login : LoginWorkers) : Prop :=
  login.objects.Owns (login.handler.bind (·.reauthorizer))

/-- A step that meets the condition keeps gloox and the workers in accordance. -/
theorem Coherent.step {login next : LoginWorkers} {action : Action} (coherent : login.Coherent)
    (answered : login.Answered action) (stepped : login.step action = some next) :
    next.Coherent := by
  obtain ⟨owner, objects⟩ := login
  cases action with
  | addStateHandler reading =>
    cases owner with
    | none =>
      obtain rfl := Option.some.inj stepped
      exact coherent
    | some handler => cases stepped
  | event reading event xmpp =>
    obtain ⟨handler, rfl, rfl⟩ := Option.map_eq_some_iff.mp stepped
    show objects.Owns (handler.isYourEvent reading event xmpp).2.1.reauthorizer
    rw [InitStateHandler.reauthorizer_isYourEvent]
    exact coherent
  | check xmpp =>
    obtain ⟨handler, rfl, rfl⟩ := Option.map_eq_some_iff.mp stepped
    unfold InitStateHandler.isStillExist
    split_ifs with shutDown
    · exact coherent.delete_iff.2 (answered handler rfl shutDown)
    · exact coherent
  | poll reading xmpp =>
    obtain ⟨handler, rfl, rfl⟩ := Option.map_eq_some_iff.mp stepped
    show (objects.pollStateHandler reading handler xmpp).Owns
      (handler.pollStateHandler reading xmpp).2.1.reauthorizer
    rw [InitStateHandler.reauthorizer_pollStateHandler]
    unfold WorkerObjects.pollStateHandler
    split_ifs with due
    · exact (WorkerObjects.Owns.handleReAuthorize coherent reading xmpp).2
        (answered handler rfl due)
    · exact coherent
  | authorizeReply worker event =>
    rw [LoginWorkers.step] at stepped
    split_ifs at stepped with requested
    obtain rfl := Option.some.inj stepped
    have replied := WorkerObjects.Owns.authorizeReply coherent requested.1 event
    cases owner with
    | none => exact replied
    | some handler => exact replied
  | subscribeReply worker subscription =>
    rw [LoginWorkers.step] at stepped
    split_ifs at stepped with requested
    obtain rfl := Option.some.inj stepped
    exact WorkerObjects.Owns.subscribeReply coherent requested.1
  | message event =>
    rw [LoginWorkers.step] at stepped
    split_ifs at stepped with live nobody
    · obtain rfl := Option.some.inj stepped
      exact coherent
    · obtain rfl := Option.some.inj stepped
      have told := WorkerObjects.Owns.message coherent event
      cases owner with
      | none => exact told
      | some handler => exact told
  | removeStateHandlers =>
    obtain rfl := Option.some.inj stepped
    exact coherent.delete_iff.2 answered
  | resetGloox =>
    obtain rfl := Option.some.inj stepped
    exact WorkerObjects.Owns.resetGloox coherent

/-- A step after which gloox keeps no dead worker meets the condition. -/
theorem Coherent.answered {login : LoginWorkers} (coherent : login.Coherent) (action : Action)
    (live : ∀ next, login.step action = some next → next.objects.CallbacksLive) :
    login.Answered action := by
  cases action with
  | poll reading xmpp =>
    intro handler own due
    have kept := live _ (Option.map_eq_some_iff.mpr ⟨handler, own, rfl⟩)
    dsimp only at kept
    unfold WorkerObjects.pollStateHandler at kept
    rw [if_pos due] at kept
    have owns : login.objects.Owns handler.reauthorizer := by
      have owned := coherent
      rw [Coherent, show login.handler = some handler from own] at owned
      exact owned
    exact (owns.handleReAuthorize reading xmpp).1 kept
  | check xmpp =>
    intro handler own shutDown
    have kept := live _ (Option.map_eq_some_iff.mpr ⟨handler, own, rfl⟩)
    unfold InitStateHandler.isStillExist at kept
    rw [if_pos shutDown] at kept
    exact coherent.delete_iff.1.mp kept
  | removeStateHandlers => exact coherent.delete_iff.1.mp (live _ rfl)
  | _ => trivial

/-- When gloox keeps live workers only. In every run every worker that gloox keeps is alive in
every state, exactly if no poll ends a renewal before its replies have arrived and no handler is
removed while a reply is outstanding. -/
theorem callbacksLive_iff (actions : List Action) :
    (∀ taken login, taken <+: actions → run step taken start = some login →
      login.objects.CallbacksLive) ↔ Along step Answered actions start := by
  have implies : ∀ login : LoginWorkers, login.Coherent → login.objects.CallbacksLive :=
    fun _ coherent => WorkerObjects.Owns.callbacksLive coherent
  refine safe_iff_along implies ?_ ?_ ?_ actions
  · exact fun login action next answered stepped coherent =>
      Coherent.step coherent answered stepped
  · exact fun login action coherent live => Coherent.answered coherent action live
  · exact ⟨rfl, rfl, rfl⟩

end LoginWorkers

namespace Example

/-- The login comes into use, and its renewal is due. -/
def renewalStarts : List LoginWorkers.Action :=
  [.addStateHandler (reading 0), .event (reading 100) (.connectFactory true) (Xmpp.new login),
    .event (reading 200) ⟨[], false, 1, .auth "2030-01-01T00:00Z".toList⟩ (Xmpp.new login),
    .event (reading 300) ⟨[], false, 0, .subscribed true "sub".toList⟩ (Xmpp.new login),
    .poll (reading 3000301) (Xmpp.new login)]

/-- The server accepts the authorization, and the subscription is confirmed by a message before the
subscribe request is answered. -/
def confirmedFirst : List LoginWorkers.Action :=
  renewalStarts ++
    [.authorizeReply 0 (some ⟨[], false, 2, .auth "2030-01-01T00:00Z".toList⟩),
      .poll (reading 3000601) (Xmpp.new login),
      .message ⟨[], false, 0, .subscribed true "sub".toList⟩,
      .poll (reading 3000901) (Xmpp.new login)]

end Example

namespace LoginWorkers

/-- gloox may keep a worker that is deleted. -/
theorem callbacksLive_confirmedFirst :
    ¬ ∀ (actions : List Action) (login : LoginWorkers), run step actions start = some login →
      login.objects.CallbacksLive := by
  intro claim
  have reached : run step Example.confirmedFirst start = some _ := rfl
  have live := (claim _ _ reached).resultHandlers 1 List.mem_cons_self
  cases live

end LoginWorkers

end JnTapi
