/-
This file models the polls of a login in which a request to the server cannot be
sent.

The connection is then closed inside of the request, and the handler that polls is
given the disconnect before its request returns. What such a poll makes of the
handler is what the poll makes of it anyway, with the disconnect after the request.
-/

import JnTapi.Init.Session

namespace JnTapi

/-- Which requests of a poll cannot be sent -/
structure SendFailures where
  /-- The request of the renewal, to authorize or to subscribe -/
  renewal : Bool
  ping : Bool
deriving DecidableEq, Repr

namespace ReAuthorizeSubscribeWorker

/-- The worker goes on to subscribe in `IsComplete`. -/
def subscribes (worker : ReAuthorizeSubscribeWorker) : Bool :=
  match worker.state with
  | .authorizing authorizer => !worker.complete && authorizer.complete && !authorizer.error
  | _ => false

/-- `IsComplete` does nothing to the object, or it goes on to subscribe. -/
theorem isComplete_cases (worker : ReAuthorizeSubscribeWorker) (xmpp : Xmpp) :
    (worker.subscribes = false ∧ (worker.isComplete xmpp).2.2 = xmpp) ∨
    (worker.subscribes = true ∧ ∃ expireDate next,
      worker.isComplete xmpp = (false, next, xmpp.subscribeCallEvents expireDate)) := by
  unfold isComplete subscribes
  cases worker.complete with
  | true =>
    refine Or.inl ⟨?_, rfl⟩
    cases worker.state <;> rfl
  | false =>
    cases worker.state with
    | none => exact Or.inl ⟨rfl, rfl⟩
    | authorizing authorizer =>
      rcases authorizer with ⟨complete, error, expireDate⟩
      cases complete with
      | false => exact Or.inl ⟨rfl, rfl⟩
      | true =>
        cases error with
        | true => exact Or.inl ⟨rfl, rfl⟩
        | false => exact Or.inr ⟨rfl, expireDate, _, rfl⟩
    | subscribing subscriber =>
      rcases subscriber with ⟨complete, error, subid⟩
      cases complete <;> exact Or.inl ⟨rfl, rfl⟩

/-- A worker that is complete does not subscribe. -/
theorem subscribes_eq_false {worker : ReAuthorizeSubscribeWorker} {xmpp : Xmpp}
    (complete : (worker.isComplete xmpp).1 = true) : worker.subscribes = false := by
  rcases worker.isComplete_cases xmpp with ⟨silent, -⟩ | ⟨-, expireDate, next, goesOn⟩
  · exact silent
  · rw [goesOn] at complete
    cases complete

end ReAuthorizeSubscribeWorker

namespace InitStateHandler

/-! ### Requests that fail -/

/-- What a request leaves when it returns. If it fails, `OnSipXmpp::onDisconnect` has signalled the
disconnect, which the handler accepts in every state. -/
def afterSend (fails : Bool) (reading : Reading) (handler : InitStateHandler) (xmpp : Xmpp) :
    InitStateHandler × Xmpp :=
  if fails then
    let (_, handler, xmpp) := handler.isYourEvent reading (.connectFactory false) xmpp
    (handler, handler.onStateChange .isYourEventHandled xmpp)
  else (handler, xmpp)

/-- `OnSipInitStateHandler::_handleReAuthorize`, whose request may fail -/
def handleReAuthorizeFailing (fails : Bool) (reading : Reading) (handler : InitStateHandler)
    (xmpp : Xmpp) : Bool × InitStateHandler × Xmpp :=
  match handler.reauthorizer with
  | none =>
    let (worker, xmpp) := (ReAuthorizeSubscribeWorker.new reading).execute xmpp
    (true, afterSend fails reading { handler with reauthorizer := some worker } xmpp)
  | some worker =>
    match worker.isComplete xmpp with
    | (true, worker, xmpp) =>
      if worker.error then
        (true, { handler with
          authTO := TimeOut.setMsecs reading subscribeQuickRetry
          reauthorizer := none }, xmpp)
      else
        (true, { handler with
          subscribedSubid := worker.subid
          authTO := TimeOut.setMsecs reading subscribeTimeout
          reauthorizer := none }, xmpp)
    | (false, next, xmpp) =>
      let (handler, xmpp) := handler.afterSend (fails && worker.subscribes) reading xmpp
      -- The handler also looks at the time of a worker that has just been disconnected.
      if generalCommunicationTimeout * 3 < next.timer.msecs reading then
        (false, { handler.assignNewState reading .disconnected with reauthorizer := none }, xmpp)
      else (true, { handler with reauthorizer := some next }, xmpp)

/-- The ping of `OnSipInitStateHandler::PollStateHandler`, which may fail -/
def pollPingFailing (fails : Bool) (reading : Reading) (handler : InitStateHandler) (xmpp : Xmpp) :
    InitStateHandler × Xmpp :=
  if handler.state = .ok ∧ handler.ping.isExpired reading then
    let (handler, xmpp) := handler.afterSend fails reading (xmpp.emit .ping)
    ({ handler with ping := handler.ping.reset reading }, xmpp)
  else (handler, xmpp)

/-- `OnSipInitStateHandler::PollStateHandler`, whose requests may fail -/
def pollStateHandlerFailing (failures : SendFailures) (reading : Reading)
    (handler : InitStateHandler) (xmpp : Xmpp) : Bool × InitStateHandler × Xmpp :=
  match (if handler.state = .ok ∧ handler.authTO.isExpired reading
    then handler.handleReAuthorizeFailing failures.renewal reading xmpp
    else (true, handler, xmpp)) with
  | (false, handler, xmpp) => (true, handler, xmpp)
  | (true, handler, xmpp) =>
    let (handler, xmpp) := handler.pollPingFailing failures.ping reading xmpp
    let (changed, handler) := checkStateTimeouts reading
      [.preLogin, .authorizing, .enablingCallEvents, .shuttingDown] handler
    (changed, handler, xmpp)

/-! ### What a failure leaves -/

/-- The effect is a part of the signal of a disconnect. -/
def Notices (effect : Effect) : Prop :=
  (∃ event, effect = .deleted event) ∨ ∃ notification, effect = .initStateChange notification

@[simp] theorem afterSend_false (reading : Reading) (handler : InitStateHandler) (xmpp : Xmpp) :
    handler.afterSend false reading xmpp = (handler, xmpp) := rfl

/-- The disconnect changes the state only. -/
theorem afterSend_true {handler : InitStateHandler} (started : handler.state ≠ .preLogin)
    (reading : Reading) (xmpp : Xmpp) :
    handler.afterSend true reading xmpp =
      (handler.assignNewState reading .disconnected,
        (xmpp.deleteEvent (.connectFactory false)).initStateChange
          ⟨.isYourEventHandled, .disconnected⟩) := by
  have signalled : handler.isYourEvent reading (.connectFactory false) xmpp =
      (true, handler.assignNewState reading .disconnected,
        xmpp.deleteEvent (.connectFactory false)) := by
    unfold isYourEvent
    cases state : handler.state with
    | preLogin => exact absurd state started
    | _ => rfl
  unfold afterSend
  rw [signalled]
  rfl

theorem afterSend_fst {handler : InitStateHandler} (started : handler.state ≠ .preLogin)
    (fails : Bool) (reading : Reading) (xmpp : Xmpp) :
    (handler.afterSend fails reading xmpp).1 =
      if fails then handler.assignNewState reading .disconnected else handler := by
  cases fails with
  | true => rw [afterSend_true started, if_pos rfl]
  | false => rfl

theorem emits_afterSend {handler : InitStateHandler} (started : handler.state ≠ .preLogin)
    (fails : Bool) (reading : Reading) (xmpp : Xmpp) :
    Xmpp.Emits Notices xmpp (handler.afterSend fails reading xmpp).2 := by
  cases fails with
  | true =>
    rw [afterSend_true started]
    exact (Xmpp.Emits.emit (Or.inl ⟨_, rfl⟩) xmpp).trans
      ⟨[_], rfl, fun effect member => Or.inr ⟨_, List.mem_singleton.mp member⟩⟩
  | false => exact Xmpp.Emits.refl xmpp

/-! ### The polls as before, with the disconnects -/

/-- The renewal makes a request, if its timer has expired. -/
def renewalSends (handler : InitStateHandler) : Bool :=
  match handler.reauthorizer with
  | none => true
  | some worker => worker.subscribes

/-- The disconnect of a renewal may as well come after it. -/
theorem handleReAuthorizeFailing_eq {handler : InitStateHandler} (ok : handler.state = .ok)
    (fails : Bool) (reading : Reading) (xmpp : Xmpp) :
    handler.handleReAuthorizeFailing fails reading xmpp =
      ((handler.handleReAuthorize reading xmpp).1,
        (handler.handleReAuthorize reading xmpp).2.1.afterSend (fails && handler.renewalSends)
          reading (handler.handleReAuthorize reading xmpp).2.2) := by
  have started : handler.state ≠ .preLogin := by simp [ok]
  unfold handleReAuthorizeFailing handleReAuthorize renewalSends
  cases own : handler.reauthorizer with
  | none => simp only [Bool.and_true]
  | some worker =>
    rcases outcome : worker.isComplete xmpp with ⟨complete, next, later⟩
    cases complete with
    | true =>
      have silent : worker.subscribes = false :=
        ReAuthorizeSubscribeWorker.subscribes_eq_false (congrArg Prod.fst outcome)
      simp only [silent, Bool.and_false, outcome]
      split_ifs <;> rfl
    | false =>
      simp only [outcome]
      cases fails && worker.subscribes with
      | false => split_ifs <;> rfl
      | true =>
        rw [afterSend_true started]
        split_ifs
        · rw [afterSend_true InitStates.noConfusion]
          rfl
        · have still : InitStateHandler.state { handler with reauthorizer := some next } ≠
              .preLogin := started
          exact congrArg (Prod.mk true) (afterSend_true still reading later).symm

/-- The disconnect of a ping may as well come after its timer is reset. -/
theorem pollPingFailing_eq (fails : Bool) (reading : Reading) (handler : InitStateHandler)
    (xmpp : Xmpp) :
    handler.pollPingFailing fails reading xmpp =
      (handler.pollPing reading xmpp).1.afterSend
        (fails && decide (handler.state = .ok ∧ handler.ping.isExpired reading)) reading
        (handler.pollPing reading xmpp).2 := by
  unfold pollPingFailing pollPing
  by_cases due : handler.state = .ok ∧ handler.ping.isExpired reading
  · have started : handler.state ≠ .preLogin := by simp [due.1]
    rw [if_pos due, if_pos due, decide_eq_true due, Bool.and_true]
    cases fails with
    | false => rfl
    | true =>
      have still : InitStateHandler.state { handler with ping := handler.ping.reset reading } ≠
          .preLogin := started
      rw [afterSend_true started]
      exact (afterSend_true still reading (xmpp.emit .ping)).symm
  · rw [if_neg due, if_neg due, decide_eq_false due, Bool.and_false]
    rfl

/-- Without a failure the poll is that of the handler. -/
theorem pollStateHandlerFailing_false (reading : Reading) (handler : InitStateHandler)
    (xmpp : Xmpp) :
    handler.pollStateHandlerFailing ⟨false, false⟩ reading xmpp =
      handler.pollStateHandler reading xmpp := by
  have renewal : handler.state = .ok → handler.handleReAuthorizeFailing false reading xmpp =
      handler.handleReAuthorize reading xmpp := by
    intro ok
    rw [handleReAuthorizeFailing_eq ok, Bool.false_and]
    rfl
  have ping : ∀ next later, pollPingFailing false reading next later = pollPing reading next later :=
    fun next later => by
      rw [pollPingFailing_eq, Bool.false_and]
      rfl
  unfold pollStateHandlerFailing pollStateHandler
  simp only [ping]
  by_cases due : handler.state = .ok ∧ handler.authTO.isExpired reading
  · rw [if_pos due, if_pos due]
    have same := renewal due.1
    generalize handler.handleReAuthorizeFailing false reading xmpp = renewed at same ⊢
    subst same
    rfl
  · rw [if_neg due, if_neg due]

/-! ### A poll of a login in use -/

/-- What the renewal makes of a login in use, when its timer has expired -/
def renewed (reading : Reading) (handler : InitStateHandler) (xmpp : Xmpp) :
    Bool × InitStateHandler × Xmpp :=
  if handler.authTO.isExpired reading then handler.handleReAuthorize reading xmpp
  else (true, handler, xmpp)

/-- The renewal makes a request in a poll with this reading. -/
def asks (reading : Reading) (handler : InitStateHandler) : Bool :=
  handler.authTO.isExpired reading && handler.renewalSends

/-- What the renewal leaves, with the disconnect if its request fails -/
def renewedFailing (fails : Bool) (reading : Reading) (handler : InitStateHandler) (xmpp : Xmpp) :
    InitStateHandler × Xmpp :=
  (handler.renewed reading xmpp).2.1.afterSend (fails && handler.asks reading) reading
    (handler.renewed reading xmpp).2.2

theorem state_renewed {handler : InitStateHandler} (ok : handler.state = .ok) (reading : Reading)
    (xmpp : Xmpp) :
    ((handler.renewed reading xmpp).1 = true ∧ (handler.renewed reading xmpp).2.1.state = .ok) ∨
      ((handler.renewed reading xmpp).1 = false ∧
        (handler.renewed reading xmpp).2.1.state = .disconnected) := by
  unfold renewed
  split_ifs
  · exact (handleReAuthorize_cases reading handler xmpp).imp_left fun ⟨going, same⟩ =>
      ⟨going, (congrArg StateItem.state same).trans ok⟩
  · exact Or.inl ⟨rfl, ok⟩

theorem started_renewed {handler : InitStateHandler} (ok : handler.state = .ok) (reading : Reading)
    (xmpp : Xmpp) : (handler.renewed reading xmpp).2.1.state ≠ .preLogin := by
  rcases state_renewed ok reading xmpp with ⟨-, same⟩ | ⟨-, same⟩ <;> simp [same]

theorem state_afterSend {handler : InitStateHandler} (started : handler.state ≠ .preLogin)
    (fails : Bool) (reading : Reading) (xmpp : Xmpp) :
    (handler.afterSend fails reading xmpp).1.state =
      if fails then .disconnected else handler.state := by
  rw [afterSend_fst started]
  cases fails <;> rfl

/-- After the renewal the login is in use or disconnected. -/
theorem state_renewedFailing {handler : InitStateHandler} (ok : handler.state = .ok) (fails : Bool)
    (reading : Reading) (xmpp : Xmpp) :
    (handler.renewedFailing fails reading xmpp).1.state =
      if fails && handler.asks reading then .disconnected
      else (handler.renewed reading xmpp).2.1.state :=
  state_afterSend (started_renewed ok reading xmpp) _ reading _

theorem state_pollPingFailing {handler : InitStateHandler} (started : handler.state ≠ .preLogin)
    (fails : Bool) (reading : Reading) (xmpp : Xmpp) :
    (handler.pollPingFailing fails reading xmpp).1.state =
      if fails && decide (handler.state = .ok ∧ handler.ping.isExpired reading) then .disconnected
      else handler.state := by
  have same : (handler.pollPing reading xmpp).1.state = handler.state :=
    congrArg StateItem.state (currentState_pollPing reading handler xmpp)
  rw [pollPingFailing_eq, state_afterSend (same ▸ started), same]

/-- A poll of a login in use does nothing but the renewal and a ping. -/
theorem pollStateHandlerFailing_ok {handler : InitStateHandler} (ok : handler.state = .ok)
    (failures : SendFailures) (reading : Reading) (xmpp : Xmpp) :
    (handler.pollStateHandlerFailing failures reading xmpp).2 =
      (handler.renewedFailing failures.renewal reading xmpp).1.pollPingFailing failures.ping reading
        (handler.renewedFailing failures.renewal reading xmpp).2 := by
  have first : (if handler.state = .ok ∧ handler.authTO.isExpired reading
      then handler.handleReAuthorizeFailing failures.renewal reading xmpp
      else (true, handler, xmpp)) = ((handler.renewed reading xmpp).1,
        handler.renewedFailing failures.renewal reading xmpp) := by
    unfold renewedFailing renewed asks
    cases due : handler.authTO.isExpired reading with
    | true => rw [if_pos ⟨ok, rfl⟩, if_pos rfl, handleReAuthorizeFailing_eq ok, Bool.true_and]
    | false =>
      rw [if_neg (fun both => Bool.false_ne_true both.2), if_neg Bool.false_ne_true, Bool.false_and,
        Bool.and_false]
      rfl
  have renewing := state_renewedFailing ok failures.renewal reading xmpp
  unfold pollStateHandlerFailing
  rw [first]
  rcases outcome : handler.renewedFailing failures.renewal reading xmpp with ⟨next, later⟩
  rw [outcome] at renewing
  dsimp only at renewing ⊢
  rcases state_renewed ok reading xmpp with ⟨going, same⟩ | ⟨lost, same⟩
  · rw [same] at renewing
    have settled : (next.pollPingFailing failures.ping reading later).1.state ∉
        [InitStates.preLogin, .authorizing, .enablingCallEvents, .shuttingDown] := by
      have started : next.state ≠ .preLogin := by
        rw [renewing]
        split_ifs <;> simp
      rw [state_pollPingFailing started, renewing]
      split_ifs <;> simp
    have quiet : checkStateTimeouts reading
        [.preLogin, .authorizing, .enablingCallEvents, .shuttingDown]
        (next.pollPingFailing failures.ping reading later).1 =
          (false, (next.pollPingFailing failures.ping reading later).1) :=
      (checkStateTimeouts_cases reading _ _).resolve_right fun ⟨member, _⟩ => settled member
    rw [going]
    simp only [quiet]
  · rw [same, ite_self] at renewing
    have unpinged : ¬ (next.state = .ok ∧ next.ping.isExpired reading) := by simp [renewing]
    rw [lost]
    exact (if_neg unpinged).symm

/-! ### The session after the poll -/

/-- What the renewal of a login is about -/
def session (handler : InitStateHandler) :
    TString × TimeOut × Option ReAuthorizeSubscribeWorker :=
  (handler.subscribedSubid, handler.authTO, handler.reauthorizer)

theorem session_afterSend {handler : InitStateHandler} (started : handler.state ≠ .preLogin)
    (fails : Bool) (reading : Reading) (xmpp : Xmpp) :
    (handler.afterSend fails reading xmpp).1.session = handler.session := by
  rw [afterSend_fst started]
  cases fails <;> rfl

theorem session_pollPingFailing (fails : Bool) (reading : Reading) (handler : InitStateHandler)
    (xmpp : Xmpp) : (handler.pollPingFailing fails reading xmpp).1.session = handler.session := by
  unfold pollPingFailing
  split_ifs with due
  · exact session_afterSend (by simp [due.1]) fails reading (xmpp.emit .ping)
  · rfl

/-- The session is that which the renewal leaves. -/
theorem session_pollStateHandlerFailing (failures : SendFailures) (reading : Reading)
    (handler : InitStateHandler) (xmpp : Xmpp) :
    (handler.pollStateHandlerFailing failures reading xmpp).2.1.session =
      if handler.state = .ok then (handler.renewed reading xmpp).2.1.session
      else handler.session := by
  split_ifs with ok
  · rw [pollStateHandlerFailing_ok ok, session_pollPingFailing]
    exact session_afterSend (started_renewed ok reading xmpp) _ reading _
  · have unpinged : handler.pollPingFailing failures.ping reading xmpp = (handler, xmpp) :=
      if_neg fun both => ok both.1
    unfold pollStateHandlerFailing
    rw [if_neg fun both => ok both.1]
    simp only [unpinged]
    rcases checkStateTimeouts_cases reading
      [.preLogin, .authorizing, .enablingCallEvents, .shuttingDown] handler with same | ⟨-, same⟩
    · rw [same]
    · rw [same]
      rfl

theorem reauthorizer_pollStateHandlerFailing (failures : SendFailures) (reading : Reading)
    (handler : InitStateHandler) (xmpp : Xmpp) :
    (handler.pollStateHandlerFailing failures reading xmpp).2.1.reauthorizer =
      if handler.state = .ok ∧ handler.authTO.isExpired reading then
        (handler.handleReAuthorize reading xmpp).2.1.reauthorizer
      else handler.reauthorizer := by
  have same := congrArg (·.2.2) (session_pollStateHandlerFailing failures reading handler xmpp)
  refine same.trans ?_
  unfold renewed
  by_cases ok : handler.state = .ok
  · by_cases due : handler.authTO.isExpired reading
    · rw [if_pos ok, if_pos due, if_pos ⟨ok, due⟩]
      rfl
    · rw [if_pos ok, if_neg due, if_neg fun both => due both.2]
      rfl
  · rw [if_neg ok, if_neg fun both => ok both.1]
    rfl

/-! ### The requests of the poll -/

/-- The effect is a request of the renewal. -/
def Requests (effect : Effect) : Prop :=
  (∃ contextId address password, effect = .authorize contextId address password) ∨
    ∃ expireTime, effect = .subscribe expireTime

/-- The renewal does nothing to the object but its request. -/
theorem effects_renewed (reading : Reading) (handler : InitStateHandler) (xmpp : Xmpp) :
    ∃ more, (handler.renewed reading xmpp).2.2.effects = xmpp.effects ++ more ∧
      (∀ effect ∈ more, Requests effect) ∧ (more ≠ [] ↔ handler.asks reading = true) := by
  unfold renewed asks renewalSends
  cases handler.authTO.isExpired reading with
  | false => exact ⟨[], (List.append_nil _).symm, by simp, by simp⟩
  | true =>
    rw [if_pos rfl, Bool.true_and]
    cases own : handler.reauthorizer with
    | none =>
      unfold handleReAuthorize
      rw [own]
      refine ⟨[_], rfl, fun effect member => ?_, by simp⟩
      exact Or.inl ⟨_, _, _, List.mem_singleton.mp member⟩
    | some worker =>
      have left : (handler.handleReAuthorize reading xmpp).2.2 = (worker.isComplete xmpp).2.2 := by
        unfold handleReAuthorize
        rcases outcome : worker.isComplete xmpp with ⟨complete, next, later⟩
        simp only [own, outcome]
        cases complete with
        | true => dsimp only; split_ifs <;> rfl
        | false => dsimp only; split_ifs <;> rfl
      rcases worker.isComplete_cases xmpp with ⟨silent, same⟩ | ⟨asks, expireDate, next, goesOn⟩
      · refine ⟨[], ?_, by simp, by simp [silent]⟩
        rw [left, same, List.append_nil]
      · refine ⟨[.subscribe expireDate], ?_, fun effect member => ?_, by simp [asks]⟩
        · rw [left, goesOn]
          rfl
        · exact Or.inr ⟨_, List.mem_singleton.mp member⟩

/-- The poll makes a ping. -/
def Pings (failures : SendFailures) (reading : Reading) (xmpp : Xmpp) (handler : InitStateHandler) :
    Prop :=
  (handler.renewedFailing failures.renewal reading xmpp).1.state = .ok ∧
    (handler.renewedFailing failures.renewal reading xmpp).1.ping.isExpired reading = true

/-- A request of the poll fails. -/
def Fails (failures : SendFailures) (reading : Reading) (xmpp : Xmpp) (handler : InitStateHandler) :
    Prop :=
  (failures.renewal = true ∧ handler.asks reading = true) ∨
    (failures.ping = true ∧ handler.Pings failures reading xmpp)

theorem ping_not_mem {effects : List Effect} (notices : ∀ effect ∈ effects, Notices effect) :
    Effect.ping ∉ effects := by
  intro member
  rcases notices _ member with ⟨event, same⟩ | ⟨notification, same⟩ <;> cases same

theorem effects_pollPingFailing (fails : Bool) (reading : Reading) (handler : InitStateHandler)
    (xmpp : Xmpp) :
    ∃ others, (handler.pollPingFailing fails reading xmpp).2.effects = xmpp.effects ++ others ∧
      (∀ effect ∈ others, Notices effect ∨ effect = .ping) ∧
      (.ping ∈ others ↔ handler.state = .ok ∧ handler.ping.isExpired reading = true) := by
  unfold pollPingFailing
  split_ifs with due
  · obtain ⟨notices, adds, noPing⟩ := emits_afterSend
      (show handler.state ≠ .preLogin by simp [due.1]) fails reading (xmpp.emit .ping)
    refine ⟨.ping :: notices, ?_, fun effect member => ?_, iff_of_true List.mem_cons_self due⟩
    · exact adds.trans (List.append_assoc _ _ _)
    · exact (List.mem_cons.mp member).symm.imp_left (noPing effect)
  · exact ⟨[], (List.append_nil _).symm, by simp, iff_of_false List.not_mem_nil due⟩

/-- The poll does what the renewal does, and else nothing but a ping and the disconnects. -/
theorem effects_pollStateHandlerFailing {handler : InitStateHandler} (ok : handler.state = .ok)
    (failures : SendFailures) {reading : Reading} {xmpp : Xmpp} {more : List Effect}
    (adds : (handler.renewed reading xmpp).2.2.effects = xmpp.effects ++ more) :
    ∃ others, (handler.pollStateHandlerFailing failures reading xmpp).2.2.effects =
        xmpp.effects ++ (more ++ others) ∧
      (∀ effect ∈ others, Notices effect ∨ effect = .ping) ∧
      (.ping ∈ others ↔ handler.Pings failures reading xmpp) := by
  obtain ⟨notices, noticed, noPing⟩ := emits_afterSend (started_renewed ok reading xmpp)
    (failures.renewal && handler.asks reading) reading (handler.renewed reading xmpp).2.2
  obtain ⟨others, added, pings, pinged⟩ := effects_pollPingFailing failures.ping reading
    (handler.renewedFailing failures.renewal reading xmpp).1
    (handler.renewedFailing failures.renewal reading xmpp).2
  refine ⟨notices ++ others, ?_, fun effect member => ?_, ?_⟩
  · rw [pollStateHandlerFailing_ok ok, added, renewedFailing, noticed, adds]
    simp only [List.append_assoc]
  · exact (List.mem_append.mp member).elim (fun notice => Or.inl (noPing effect notice)) (pings effect)
  · rw [List.mem_append, or_iff_right (ping_not_mem noPing), pinged]
    rfl

/-- The poll disconnects if the renewal does, and if a request fails. -/
theorem state_pollStateHandlerFailing {handler : InitStateHandler} (ok : handler.state = .ok)
    (failures : SendFailures) (reading : Reading) (xmpp : Xmpp) :
    ((handler.pollStateHandlerFailing failures reading xmpp).2.1.state = .disconnected ∧
      ((handler.renewed reading xmpp).2.1.state = .disconnected ∨
        handler.Fails failures reading xmpp)) ∨
    ((handler.pollStateHandlerFailing failures reading xmpp).2.1.state = .ok ∧
      (handler.renewed reading xmpp).2.1.state = .ok ∧ ¬ handler.Fails failures reading xmpp) := by
  have renewing := state_renewedFailing ok failures.renewal reading xmpp
  have started : (handler.renewedFailing failures.renewal reading xmpp).1.state ≠ .preLogin := by
    rw [renewing]
    split_ifs
    · exact InitStates.noConfusion
    · exact started_renewed ok reading xmpp
  rw [pollStateHandlerFailing_ok ok, state_pollPingFailing started]
  split_ifs with pinged
  · rw [Bool.and_eq_true, decide_eq_true_eq] at pinged
    exact Or.inl ⟨rfl, Or.inr (Or.inr pinged)⟩
  · rw [Bool.and_eq_true, decide_eq_true_eq] at pinged
    rw [renewing]
    split_ifs with asked
    · exact Or.inl ⟨rfl, Or.inr (Or.inl ((Bool.and_eq_true _ _).mp asked))⟩
    · rcases state_renewed ok reading xmpp with ⟨-, same⟩ | ⟨-, same⟩
      · refine Or.inr ⟨same, same, ?_⟩
        rintro (fails | fails)
        · exact asked ((Bool.and_eq_true _ _).mpr fails)
        · exact pinged fails
      · exact Or.inl ⟨same, Or.inl same⟩

end InitStateHandler

end JnTapi
