/-
This file proves that the renewal of a login keeps the session that is in use.

The answers of the server reach the worker at any time, and the handler looks at
the worker only in a poll whose timer has expired. So the history of a handler is
watched together with the answers that its worker has taken since it was started,
and the invariant says what the worker knows of these answers.
-/

import JnTapi.Init.Callbacks
import JnTapi.Init.FailingSends
import JnTapi.Init.Subscribed

namespace JnTapi

open Library

/-! ### The answers that a worker takes -/

/-- An answer of the server to a worker -/
inductive WorkerAnswer
  /-- A reply that authorizes it until this date -/
  | authorized (expireDate : TString)
  /-- A message that says it is subscribed, with this subid -/
  | accepted (subid : TString)
  /-- A reply that does not authorize it, or a message that does not subscribe it -/
  | failed
deriving DecidableEq, Repr

/-- The answer that a reply is. -/
def AuthorizeWorker.answer (event : Option XmppEvent) : WorkerAnswer :=
  match event with
  | some ⟨_, false, _, .auth expireDate⟩ => .authorized expireDate
  | _ => .failed

/-- The answer that a message is, if it is one. -/
def EnableCallEventsWorker.answer (event : XmppEvent) : Option WorkerAnswer :=
  match event.data with
  | .subscribed isSubscribed subid =>
    if event.isError || !isSubscribed then some .failed else some (.accepted subid)
  | _ => none

theorem AuthorizeWorker.handleIqID_cases (event : Option XmppEvent) (worker : AuthorizeWorker) :
    (∃ expireDate, answer event = .authorized expireDate ∧
      worker.handleIqID event = { worker with complete := true, expireDate := expireDate }) ∨
    (answer event = .failed ∧
      worker.handleIqID event = { worker with complete := true, error := true }) := by
  rcases event with _ | ⟨id, isError, context, data⟩
  · exact Or.inr ⟨rfl, rfl⟩
  · cases isError with
    | true => exact Or.inr ⟨rfl, rfl⟩
    | false =>
      cases data with
      | auth expireDate => exact Or.inl ⟨expireDate, rfl, rfl⟩
      | _ => exact Or.inr ⟨rfl, rfl⟩

theorem EnableCallEventsWorker.handleMessage_cases {worker : EnableCallEventsWorker}
    (waits : worker.complete = false) (event : XmppEvent) :
    (∃ subid, answer event = some (.accepted subid) ∧ worker.handleMessage event =
      { worker with complete := true, subid := Strings.cStr subid }) ∨
    (answer event = some .failed ∧
      worker.handleMessage event = { worker with complete := true, error := true }) ∨
    (answer event = none ∧ worker.handleMessage event = worker) := by
  unfold answer handleMessage
  rw [waits]
  cases event.data with
  | subscribed isSubscribed subid =>
    by_cases fails : (event.isError || !isSubscribed) = true
    · exact Or.inr (Or.inl ⟨if_pos fails, if_pos fails⟩)
    · exact Or.inl ⟨subid, if_neg fails, if_neg fails⟩
  | _ => exact Or.inr (Or.inr ⟨rfl, rfl⟩)

namespace ReAuthorizeSubscribeWorker

/-- The answer that the worker takes from a reply. It takes replies while it authorizes. -/
def replyTaken (event : Option XmppEvent) (worker : ReAuthorizeSubscribeWorker) :
    Option WorkerAnswer :=
  match worker.state with
  | .authorizing _ => some (AuthorizeWorker.answer event)
  | _ => none

/-- The answer that the worker takes from a message. It takes one while it subscribes. -/
def messageTaken (event : XmppEvent) (worker : ReAuthorizeSubscribeWorker) :
    Option WorkerAnswer :=
  match worker.state with
  | .subscribing subscriber =>
    if subscriber.complete then none else EnableCallEventsWorker.answer event
  | _ => none

/-- What a worker in this state knows of the answers it has taken. -/
def Knows (answers : List WorkerAnswer) : ReAuthorizeState → Prop
  | .none => False
  | .authorizing authorizer =>
    (authorizer.error = true ↔ .failed ∈ answers) ∧
      (authorizer.error = true → authorizer.complete = true) ∧
      (authorizer.complete = true → authorizer.error = false →
        .authorized authorizer.expireDate ∈ answers) ∧
      ∀ subid, .accepted subid ∉ answers
  | .subscribing subscriber =>
    (subscriber.error = true ↔ .failed ∈ answers) ∧
      (subscriber.error = true → subscriber.complete = true) ∧
      (∃ expireDate, .authorized expireDate ∈ answers) ∧
      (subscriber.complete = true → subscriber.error = false →
        ∃ subid, .accepted subid ∈ answers) ∧
      ∀ subid, .accepted subid ∈ answers →
        subscriber.complete = true ∧ subscriber.subid = Strings.cStr subid

/-- A worker that is under way: it has reported nothing, and knows its answers. -/
structure UnderWay (answers : List WorkerAnswer) (worker : ReAuthorizeSubscribeWorker) : Prop where
  notComplete : worker.complete = false
  noError : worker.error = false
  knows : Knows answers worker.state

theorem underWay_execute (reading : Reading) (xmpp : Xmpp) :
    UnderWay [] ((new reading).execute xmpp).1 :=
  ⟨rfl, rfl, by simp [execute, Knows, AuthorizeWorker.new]⟩

theorem UnderWay.handleIqID {answers : List WorkerAnswer} {worker : ReAuthorizeSubscribeWorker}
    (underWay : UnderWay answers worker) (event : Option XmppEvent) :
    UnderWay (answers ++ (worker.replyTaken event).toList) (worker.handleIqID event) := by
  obtain ⟨notComplete, noError, knows⟩ := underWay
  unfold ReAuthorizeSubscribeWorker.handleIqID replyTaken
  cases phase : worker.state with
  | none =>
    rw [phase] at knows
    exact knows.elim
  | authorizing authorizer =>
    rw [phase] at knows
    refine ⟨notComplete, noError, ?_⟩
    dsimp only
    rcases authorizer.handleIqID_cases event with ⟨expireDate, answer, next⟩ | ⟨answer, next⟩
    · rw [answer, next]
      refine ⟨?_, fun _ => rfl, fun _ _ => by simp, ?_⟩
      · simpa using knows.1
      · simpa using knows.2.2.2
    · rw [answer, next]
      refine ⟨by simp, fun _ => rfl, fun _ fine => absurd fine Bool.true_eq_false_eq_False, ?_⟩
      simpa using knows.2.2.2
  | subscribing subscriber =>
    simp only [Option.toList_none, List.append_nil]
    exact ⟨notComplete, noError, phase ▸ knows⟩

theorem UnderWay.handleMessage {answers : List WorkerAnswer} {worker : ReAuthorizeSubscribeWorker}
    (underWay : UnderWay answers worker) (event : XmppEvent) :
    UnderWay (answers ++ (worker.messageTaken event).toList) (worker.handleMessage event) := by
  obtain ⟨notComplete, noError, knows⟩ := underWay
  unfold ReAuthorizeSubscribeWorker.handleMessage messageTaken
  cases phase : worker.state with
  | none =>
    rw [phase] at knows
    exact knows.elim
  | authorizing authorizer =>
    simp only [Option.toList_none, List.append_nil]
    exact ⟨notComplete, noError, phase ▸ knows⟩
  | subscribing subscriber =>
    rw [phase] at knows
    refine ⟨notComplete, noError, ?_⟩
    dsimp only
    cases taken : subscriber.complete with
    | true =>
      have same : subscriber.handleMessage event = subscriber := if_pos taken
      rw [if_pos rfl, same, Option.toList_none, List.append_nil]
      exact knows
    | false =>
      rw [if_neg Bool.false_ne_true]
      obtain ⟨errors, completes, ⟨expireDate, authorized⟩, -, subids⟩ := knows
      have none : ∀ subid, WorkerAnswer.accepted subid ∉ answers := fun subid accepted => by
        rw [(subids subid accepted).1] at taken
        cases taken
      rcases EnableCallEventsWorker.handleMessage_cases taken event with
        ⟨subid, answer, next⟩ | ⟨answer, next⟩ | ⟨answer, next⟩
      · rw [answer, next]
        refine ⟨?_, fun _ => rfl, ⟨expireDate, List.mem_append_left _ authorized⟩,
          fun _ _ => ⟨subid, by simp⟩, fun other accepted => ?_⟩
        · simpa using errors
        · have same : other = subid := by simpa [none] using accepted
          exact ⟨rfl, congrArg Strings.cStr same.symm⟩
      · rw [answer, next]
        exact ⟨by simp, fun _ => rfl, ⟨expireDate, List.mem_append_left _ authorized⟩,
          fun _ fine => absurd fine Bool.true_eq_false_eq_False, by simp [none]⟩
      · rw [answer, next, Option.toList_none, List.append_nil]
        exact ⟨errors, completes, ⟨expireDate, authorized⟩, by simp [taken], subids⟩

/-! ### A look at the worker -/

/-- What a look at a worker that is under way finds: it goes on, it goes on to subscribe, or it is
complete. -/
theorem UnderWay.isComplete {answers : List WorkerAnswer} {worker : ReAuthorizeSubscribeWorker}
    (underWay : UnderWay answers worker) (xmpp : Xmpp) :
    (WorkerAnswer.failed ∉ answers ∧ worker.isComplete xmpp = (false, worker, xmpp)) ∨
    (WorkerAnswer.failed ∉ answers ∧ ∃ expireDate next, .authorized expireDate ∈ answers ∧
      UnderWay answers next ∧ next.timer = worker.timer ∧
      worker.isComplete xmpp = (false, next, xmpp.subscribeCallEvents expireDate)) ∨
    (∃ next, (next.error = true ↔ .failed ∈ answers) ∧
      (next.error = false → ∃ subid, .accepted subid ∈ answers ∧
        ∀ other, .accepted other ∈ answers → next.subid = Strings.cStr other) ∧
      worker.isComplete xmpp = (true, next, xmpp)) := by
  obtain ⟨notComplete, noError, knows⟩ := underWay
  unfold ReAuthorizeSubscribeWorker.isComplete
  rw [notComplete, if_neg Bool.false_ne_true]
  cases phase : worker.state with
  | none =>
    rw [phase] at knows
    exact knows.elim
  | authorizing authorizer =>
    rw [phase] at knows
    obtain ⟨errors, completes, dates, none⟩ := knows
    dsimp only
    cases complete : authorizer.complete with
    | false =>
      have unfailed : WorkerAnswer.failed ∉ answers := fun failed => by
        rw [completes (errors.mpr failed)] at complete
        cases complete
      exact Or.inl ⟨unfailed, rfl⟩
    | true =>
      cases error : authorizer.error with
      | true =>
        refine Or.inr (Or.inr ⟨_, iff_of_true rfl (errors.mp error), fun fine => ?_, rfl⟩)
        cases fine
      | false =>
        have unfailed : WorkerAnswer.failed ∉ answers := fun failed => by
          rw [errors.mpr failed] at error
          cases error
        refine Or.inr (Or.inl ⟨unfailed, authorizer.expireDate,
          { worker with complete := false, state := .subscribing EnableCallEventsWorker.new },
          dates complete error, ⟨rfl, noError, ?_⟩, rfl, rfl⟩)
        exact ⟨iff_of_false Bool.false_ne_true unfailed, fun failed => absurd failed Bool.false_ne_true,
          ⟨_, dates complete error⟩, fun early => absurd early Bool.false_ne_true,
          fun subid accepted => absurd accepted (none subid)⟩
  | subscribing subscriber =>
    rw [phase] at knows
    obtain ⟨errors, completes, -, accepts, subids⟩ := knows
    dsimp only
    cases complete : subscriber.complete with
    | false =>
      have unfailed : WorkerAnswer.failed ∉ answers := fun failed => by
        rw [completes (errors.mpr failed)] at complete
        cases complete
      exact Or.inl ⟨unfailed, rfl⟩
    | true =>
      refine Or.inr (Or.inr ⟨_, errors, fun fine => ?_, rfl⟩)
      obtain ⟨subid, accepted⟩ := accepts complete fine
      exact ⟨subid, accepted, fun other also => (subids other also).2⟩

end ReAuthorizeSubscribeWorker

/-! ### The worker of a history -/

namespace InitStateHandler

/-- A move of the handler, and which of its requests fail if it is a poll. An event whose request
fails leaves the handler as it does anyway, or disconnects it like an event that follows. -/
structure Attempt where
  next : Move
  failures : SendFailures

/-- The handler after the attempt -/
def attempted (handler : InitStateHandler) (attempt : Attempt) : InitStateHandler :=
  match attempt.next with
  | .poll reading xmpp => (handler.pollStateHandlerFailing attempt.failures reading xmpp).2.1
  | next => handler.moved next

/-- An attempt in which no request fails is the move. -/
theorem attempted_false (handler : InitStateHandler) (next : Move) :
    handler.attempted ⟨next, ⟨false, false⟩⟩ = handler.moved next := by
  cases next with
  | poll reading xmpp =>
    exact congrArg (·.2.1) (pollStateHandlerFailing_false reading handler xmpp)
  | _ => rfl

/-- The answer that the worker of the handler takes in the move -/
def taken (handler : InitStateHandler) : Move → Option WorkerAnswer
  | .reply event => handler.reauthorizer.bind (·.replyTaken event)
  | .message event => handler.reauthorizer.bind (·.messageTaken event)
  | _ => none

/-- The handler with the answers that its worker has taken since it was started -/
structure Watched where
  handler : InitStateHandler
  answers : List WorkerAnswer
deriving DecidableEq, Repr

namespace Watched

/-- A new handler has no worker. -/
def new (reading : Reading) : Watched := ⟨InitStateHandler.new reading, []⟩

/-- The attempt of the handler. The answers are dropped when a worker is started and when it is
deleted. -/
def step (watched : Watched) (attempt : Attempt) : Option Watched :=
  some ⟨watched.handler.attempted attempt,
    if watched.handler.reauthorizer.isSome &&
        (watched.handler.attempted attempt).reauthorizer.isSome then
      watched.answers ++ (watched.handler.taken attempt.next).toList
    else []⟩

/-- Every history of a handler can be watched. -/
theorem exists_run_step {moves : List Move} {handler last : InitStateHandler}
    (reached : run move moves handler = some last) (answers : List WorkerAnswer) :
    ∃ watched, run step (moves.map (⟨·, ⟨false, false⟩⟩)) ⟨handler, answers⟩ = some watched ∧
      watched.handler = last := by
  induction moves generalizing handler answers with
  | nil => exact ⟨_, rfl, Option.some.inj reached⟩
  | cons next rest inductionHypothesis =>
    obtain ⟨middle, stepped, remaining⟩ := run_cons_eq_some.mp reached
    obtain rfl : handler.attempted ⟨next, ⟨false, false⟩⟩ = middle :=
      (attempted_false handler next).trans (Option.some.inj stepped)
    obtain ⟨watched, also, same⟩ := inductionHypothesis remaining _
    exact ⟨watched, run_cons_eq_some.mpr ⟨_, rfl, also⟩, same⟩

/-- The worker, if there is one, is under way and knows its answers. -/
def Known (watched : Watched) : Prop :=
  match watched.handler.reauthorizer with
  | none => watched.answers = []
  | some worker => worker.UnderWay watched.answers

/-- A worker that a move leaves has been started by it or has taken its answer. -/
theorem known_of_step {watched after : Watched} {attempt : Attempt}
    (stepped : watched.step attempt = some after)
    (started : watched.handler.reauthorizer = none →
      ∀ worker ∈ (watched.handler.attempted attempt).reauthorizer, worker.UnderWay [])
    (answered : ∀ worker ∈ watched.handler.reauthorizer,
      ∀ later ∈ (watched.handler.attempted attempt).reauthorizer,
        later.UnderWay (watched.answers ++ (watched.handler.taken attempt.next).toList)) :
    after.Known := by
  obtain rfl := Option.some.inj stepped
  unfold Known
  dsimp only
  cases last : (watched.handler.attempted attempt).reauthorizer with
  | none => simp
  | some later =>
    cases first : watched.handler.reauthorizer with
    | none => exact started first later last
    | some worker => exact answered worker first later last

theorem Known.step {watched after : Watched} {attempt : Attempt} (known : watched.Known)
    (stepped : watched.step attempt = some after) : after.Known := by
  have underWay : ∀ worker ∈ watched.handler.reauthorizer, worker.UnderWay watched.answers := by
    intro worker own
    unfold Known at known
    rw [show watched.handler.reauthorizer = some worker from own] at known
    exact known
  have left : watched.handler.taken attempt.next = none →
      (∀ later ∈ (watched.handler.attempted attempt).reauthorizer,
        later ∈ watched.handler.reauthorizer) → after.Known := by
    intro nothing same
    refine known_of_step stepped (fun without later last => ?_) fun worker own later last => ?_
    · rw [without] at same
      exact absurd (same later last) (Option.not_mem_none later)
    · rw [nothing, Option.toList_none, List.append_nil]
      exact underWay later (same later last)
  obtain ⟨next, failures⟩ := attempt
  cases next with
  | event reading event xmpp =>
    refine left rfl fun later last => ?_
    have same : (watched.handler.attempted ⟨.event reading event xmpp, failures⟩).reauthorizer =
        watched.handler.reauthorizer := reauthorizer_isYourEvent reading watched.handler event xmpp
    rwa [same] at last
  | check xmpp =>
    refine left rfl fun later last => ?_
    dsimp only [attempted, moved, isStillExist] at last
    split_ifs at last
    · cases last
    · exact last
  | poll reading xmpp =>
    have polled : (watched.handler.attempted ⟨.poll reading xmpp, failures⟩).reauthorizer = _ :=
      reauthorizer_pollStateHandlerFailing failures reading watched.handler xmpp
    by_cases due : watched.handler.state = .ok ∧ watched.handler.authTO.isExpired reading
    · rw [if_pos due] at polled
      refine known_of_step stepped (fun without later last => ?_) fun worker own later last => ?_
      · rw [polled, handleReAuthorize, without] at last
        obtain rfl := Option.some.inj last
        exact ReAuthorizeSubscribeWorker.underWay_execute reading xmpp
      · rw [polled, reauthorizer_handleReAuthorize reading xmpp own] at last
        show later.UnderWay (watched.answers ++ [])
        rw [List.append_nil]
        rcases (underWay worker own).isComplete xmpp with
          ⟨-, same⟩ | ⟨-, expireDate, subscribing, -, also, -, same⟩ | ⟨finished, -, -, same⟩
        · rw [same, if_neg Bool.false_ne_true] at last
          split_ifs at last
          · cases last
          · obtain rfl := Option.some.inj last
            exact underWay worker own
        · rw [same, if_neg Bool.false_ne_true] at last
          split_ifs at last
          · cases last
          · obtain rfl := Option.some.inj last
            exact also
        · rw [same, if_pos rfl] at last
          cases last
    · refine left rfl fun later last => ?_
      rwa [polled, if_neg due] at last
  | reply event =>
    refine known_of_step stepped (fun without later last => ?_) fun worker own later last => ?_
    · dsimp only [attempted, moved, handleIqID] at last
      rw [without] at last
      cases last
    · dsimp only [attempted, moved, handleIqID] at last
      rw [own] at last
      obtain rfl := Option.some.inj last
      rw [taken, own]
      exact (underWay worker own).handleIqID event
  | message event =>
    refine known_of_step stepped (fun without later last => ?_) fun worker own later last => ?_
    · dsimp only [attempted, moved, handleMessage] at last
      rw [without] at last
      cases last
    · dsimp only [attempted, moved, handleMessage] at last
      rw [own] at last
      obtain rfl := Option.some.inj last
      rw [taken, own]
      exact (underWay worker own).handleMessage event

theorem known_of_run {reading : Reading} {attempts : List Attempt} {watched : Watched}
    (reached : run step attempts (new reading) = some watched) : watched.Known :=
  run_invariant (fun _ _ _ stepped known => known.step stepped) reached rfl

end Watched

/-! ### The effects -/

/-- The effects of the attempt -/
def sent (handler : InitStateHandler) (attempt : Attempt) : List Effect :=
  match attempt.next with
  | .event reading event xmpp =>
    (handler.isYourEvent reading event xmpp).2.2.effects.drop xmpp.effects.length
  | .check xmpp => (handler.isStillExist xmpp).2.2.effects.drop xmpp.effects.length
  | .poll reading xmpp =>
    (handler.pollStateHandlerFailing attempt.failures reading xmpp).2.2.effects.drop
      xmpp.effects.length
  | .reply _ | .message _ => []

/-- A poll of a login in use sends what the renewal sends, and perhaps a ping. -/
theorem mem_sent_poll {handler : InitStateHandler} (ok : handler.state = .ok) {reading : Reading}
    {xmpp : Xmpp} {more : List Effect}
    (adds : (handler.renewed reading xmpp).2.2.effects = xmpp.effects ++ more)
    (failures : SendFailures) :
    (∀ effect, Requests effect →
      (effect ∈ handler.sent ⟨.poll reading xmpp, failures⟩ ↔ effect ∈ more)) ∧
    (.ping ∈ handler.sent ⟨.poll reading xmpp, failures⟩ ↔
      handler.Pings failures reading xmpp) := by
  obtain ⟨others, split, each, pings⟩ := effects_pollStateHandlerFailing ok failures adds
  have whole : handler.sent ⟨.poll reading xmpp, failures⟩ = more ++ others := by
    dsimp only [sent]
    rw [split, List.drop_left]
  obtain ⟨requests, added, all, -⟩ := effects_renewed reading handler xmpp
  obtain rfl : requests = more := List.append_cancel_left (added.symm.trans adds)
  rw [whole]
  constructor
  · intro effect request
    rw [List.mem_append, or_iff_left]
    intro other
    rcases each effect other with (⟨event, rfl⟩ | ⟨notification, rfl⟩) | rfl <;>
      simp [Requests] at request
  · rw [List.mem_append, or_iff_right, pings]
    intro member
    simpa [Requests] using all _ member

/-! ### The session -/

/-- A reply or a message to the worker, or a poll -/
def Move.Renews : Move → Prop
  | .poll _ _ | .reply _ | .message _ => True
  | .event _ _ _ | .check _ => False

/-- The attempt starts a worker. -/
def Starts (handler : InitStateHandler) (attempt : Attempt) : Prop :=
  handler.reauthorizer = none ∧ (handler.attempted attempt).reauthorizer.isSome = true

/-- A poll with this reading finds the timer of the renewal expired and a worker that is complete,
with an error or without. -/
def FindsComplete (error : Bool) (reading : Reading) (xmpp : Xmpp) (handler : InitStateHandler) :
    Prop :=
  handler.authTO.isExpired reading = true ∧ ∃ worker ∈ handler.reauthorizer,
    (worker.isComplete xmpp).1 = true ∧ (worker.isComplete xmpp).2.1.error = error

/-- A poll with this reading finds the timer of the renewal expired and a worker that is not complete
after three times the limit. -/
def FindsLate (reading : Reading) (xmpp : Xmpp) (handler : InitStateHandler) : Prop :=
  handler.authTO.isExpired reading = true ∧ ∃ worker ∈ handler.reauthorizer,
    (worker.isComplete xmpp).1 = false ∧
      generalCommunicationTimeout * 3 < worker.timer.msecs reading

/-- The attempt makes a request to authorize or to subscribe that fails. -/
def LosesRequest (handler : InitStateHandler) (attempt : Attempt) : Prop :=
  attempt.failures.renewal = true ∧ ∃ effect ∈ handler.sent attempt, Requests effect

/-- The attempt makes a ping that fails. -/
def LosesPing (handler : InitStateHandler) (attempt : Attempt) : Prop :=
  attempt.failures.ping = true ∧ .ping ∈ handler.sent attempt

/-- The attempt keeps the session of a login in use. -/
structure KeepsSession (watched : Watched) (attempt : Attempt) : Prop where
  /-- A worker is started by a poll that finds the timer expired and no worker. -/
  starts : watched.handler.Starts attempt ↔ watched.handler.reauthorizer = none ∧
    ∃ reading xmpp, attempt.next = .poll reading xmpp ∧
      watched.handler.authTO.isExpired reading = true
  /-- A worker that is started authorizes at once, and nothing else does. -/
  authorizes : (∃ contextId address password,
    .authorize contextId address password ∈ watched.handler.sent attempt) ↔
      watched.handler.Starts attempt
  /-- A worker subscribes until the date of a reply that has authorized it. -/
  subscribes : ∀ expireTime, .subscribe expireTime ∈ watched.handler.sent attempt →
    .authorized expireTime ∈ watched.answers
  /-- The subid changes only in a poll that finds the worker complete without an error. -/
  changes : (watched.handler.attempted attempt).subscribedSubid ≠
      watched.handler.subscribedSubid →
    ∃ reading xmpp, attempt.next = .poll reading xmpp ∧
      watched.handler.FindsComplete false reading xmpp
  /-- The timer changes only in a poll that finds the worker complete. -/
  rearms : (watched.handler.attempted attempt).authTO ≠ watched.handler.authTO →
    ∃ reading xmpp error, attempt.next = .poll reading xmpp ∧
      watched.handler.FindsComplete error reading xmpp
  /-- Without an error, the subid is that of the message that the worker has accepted. -/
  renews : ∀ reading xmpp, attempt.next = .poll reading xmpp →
    watched.handler.FindsComplete false reading xmpp →
      (∃ subid, .accepted subid ∈ watched.answers) ∧
      (∀ subid, .accepted subid ∈ watched.answers →
        (watched.handler.attempted attempt).subscribedSubid = Strings.cStr subid ∧
        ('\x00' ∉ subid → (watched.handler.attempted attempt).subscribedSubid = subid)) ∧
      (watched.handler.attempted attempt).authTO = TimeOut.setMsecs reading subscribeTimeout ∧
      ((watched.handler.attempted attempt).state = .ok ↔ ¬ watched.handler.LosesPing attempt)
  /-- After an answer that fails the worker, the next poll that finds the timer expired tries
  again. -/
  fails : .failed ∈ watched.answers → ∀ reading xmpp, attempt.next = .poll reading xmpp →
    watched.handler.authTO.isExpired reading = true →
      ((watched.handler.attempted attempt).state = .ok ↔ ¬ watched.handler.LosesPing attempt) ∧
      (watched.handler.attempted attempt).subscribedSubid = watched.handler.subscribedSubid ∧
      (watched.handler.attempted attempt).authTO =
        TimeOut.setMsecs reading subscribeQuickRetry ∧
      (watched.handler.attempted attempt).reauthorizer = none
  /-- Only a late worker disconnects, and a request that fails. -/
  disconnects : (watched.handler.attempted attempt).state = .disconnected ↔
    (∃ reading xmpp, attempt.next = .poll reading xmpp ∧
      watched.handler.FindsLate reading xmpp) ∨
      watched.handler.LosesRequest attempt ∨ watched.handler.LosesPing attempt
  stays : (watched.handler.attempted attempt).state = .ok ∨
    (watched.handler.attempted attempt).state = .disconnected

/-- A reply or a message reaches the worker only. -/
theorem keepsSession_of_answer {watched : Watched} (ok : watched.handler.state = .ok)
    {attempt : Attempt} (noPoll : ∀ reading xmpp, attempt.next ≠ .poll reading xmpp)
    (silent : watched.handler.sent attempt = [])
    (same : ∃ worker, watched.handler.attempted attempt =
      { watched.handler with reauthorizer := watched.handler.reauthorizer.map worker }) :
    KeepsSession watched attempt := by
  obtain ⟨worker, moves⟩ := same
  have still : (watched.handler.attempted attempt).state = .ok := by
    rw [moves]
    exact ok
  have notStarted : ¬ watched.handler.Starts attempt := by
    rintro ⟨without, some⟩
    rw [moves, without] at some
    cases some
  constructor
  case starts =>
    refine iff_of_false notStarted ?_
    rintro ⟨-, reading, xmpp, same, -⟩
    exact noPoll reading xmpp same
  case authorizes =>
    rw [silent]
    exact iff_of_false (by simp) notStarted
  case subscribes =>
    rw [silent]
    intro expireTime member
    exact absurd member List.not_mem_nil
  case changes =>
    rw [moves]
    exact fun differs => absurd rfl differs
  case rearms =>
    rw [moves]
    exact fun differs => absurd rfl differs
  case renews => exact fun reading xmpp same => absurd same (noPoll reading xmpp)
  case fails => exact fun _ reading xmpp same => absurd same (noPoll reading xmpp)
  case disconnects =>
    rw [still]
    refine iff_of_false (by simp) ?_
    rintro (⟨reading, xmpp, same, -⟩ | ⟨-, effect, member, -⟩ | ⟨-, member⟩)
    · exact noPoll reading xmpp same
    · rw [silent] at member
      exact absurd member List.not_mem_nil
    · rw [silent] at member
      exact absurd member List.not_mem_nil
  case stays => exact Or.inl still

/-- What the renewal makes of a login in use in a poll, and what it sends -/
inductive Renewal (answers : List WorkerAnswer) (reading : Reading) (xmpp : Xmpp)
    (handler : InitStateHandler) : InitStateHandler → List Effect → Prop
  /-- The timer has not expired. -/
  | waits (early : handler.authTO.isExpired reading = false) :
    Renewal answers reading xmpp handler handler []
  /-- A worker is started. -/
  | starts (due : handler.authTO.isExpired reading = true) (without : handler.reauthorizer = none)
      (worker : ReAuthorizeSubscribeWorker) (contextId : Long) (address password : TString) :
    Renewal answers reading xmpp handler { handler with reauthorizer := some worker }
      [.authorize contextId address password]
  /-- The worker goes on, and may subscribe. -/
  | goesOn (due : handler.authTO.isExpired reading = true) (worker : ReAuthorizeSubscribeWorker)
      (own : handler.reauthorizer = some worker)
      (notComplete : (worker.isComplete xmpp).1 = false)
      (inTime : ¬ generalCommunicationTimeout * 3 < worker.timer.msecs reading)
      (unfailed : .failed ∉ answers) (next : ReAuthorizeSubscribeWorker) (more : List Effect)
      (sends : ∀ effect ∈ more, ∃ expireDate, effect = .subscribe expireDate ∧
        .authorized expireDate ∈ answers) :
    Renewal answers reading xmpp handler { handler with reauthorizer := some next } more
  /-- The worker is late. -/
  | late (due : handler.authTO.isExpired reading = true) (worker : ReAuthorizeSubscribeWorker)
      (own : handler.reauthorizer = some worker)
      (notComplete : (worker.isComplete xmpp).1 = false)
      (late : generalCommunicationTimeout * 3 < worker.timer.msecs reading)
      (unfailed : .failed ∉ answers) (more : List Effect)
      (sends : ∀ effect ∈ more, ∃ expireDate, effect = .subscribe expireDate ∧
        .authorized expireDate ∈ answers) :
    Renewal answers reading xmpp handler
      { handler.assignNewState reading .disconnected with reauthorizer := none } more
  /-- The worker has failed. -/
  | fails (due : handler.authTO.isExpired reading = true) (worker : ReAuthorizeSubscribeWorker)
      (own : handler.reauthorizer = some worker) (complete : (worker.isComplete xmpp).1 = true)
      (error : (worker.isComplete xmpp).2.1.error = true) :
    Renewal answers reading xmpp handler { handler with
      authTO := TimeOut.setMsecs reading subscribeQuickRetry
      reauthorizer := none } []
  /-- The worker has subscribed. -/
  | succeeds (due : handler.authTO.isExpired reading = true) (worker : ReAuthorizeSubscribeWorker)
      (own : handler.reauthorizer = some worker) (complete : (worker.isComplete xmpp).1 = true)
      (error : (worker.isComplete xmpp).2.1.error = false) (unfailed : .failed ∉ answers)
      (subid : TString) (accepted : ∃ subid, .accepted subid ∈ answers)
      (only : ∀ other, .accepted other ∈ answers → subid = Strings.cStr other) :
    Renewal answers reading xmpp handler { handler with
      subscribedSubid := subid
      authTO := TimeOut.setMsecs reading subscribeTimeout
      reauthorizer := none } []

/-- The renewal of a login whose worker is under way -/
theorem Watched.Known.renewal {watched : Watched} (known : watched.Known) (reading : Reading)
    (xmpp : Xmpp) :
    ∃ more, Renewal watched.answers reading xmpp watched.handler
        (watched.handler.renewed reading xmpp).2.1 more ∧
      (watched.handler.renewed reading xmpp).2.2.effects = xmpp.effects ++ more := by
  unfold renewed
  cases due : watched.handler.authTO.isExpired reading with
  | false => exact ⟨[], .waits due, (List.append_nil _).symm⟩
  | true =>
    rw [if_pos rfl]
    cases own : watched.handler.reauthorizer with
    | none =>
      unfold handleReAuthorize
      rw [own]
      exact ⟨_, .starts due own _ _ _ _, rfl⟩
    | some worker =>
      have underWay : worker.UnderWay watched.answers := by
        unfold Watched.Known at known
        rw [own] at known
        exact known
      have goesOn : ∀ next later more, worker.isComplete xmpp = (false, next, later) →
          WorkerAnswer.failed ∉ watched.answers → next.timer = worker.timer →
          later.effects = xmpp.effects ++ more → (∀ effect ∈ more, ∃ expireDate,
            effect = .subscribe expireDate ∧ .authorized expireDate ∈ watched.answers) →
          ∃ more, Renewal watched.answers reading xmpp watched.handler
              (watched.handler.handleReAuthorize reading xmpp).2.1 more ∧
            (watched.handler.handleReAuthorize reading xmpp).2.2.effects =
              xmpp.effects ++ more := by
        intro next later more outcome unfailed timer adds sends
        have notComplete : (worker.isComplete xmpp).1 = false := congrArg Prod.fst outcome
        unfold handleReAuthorize
        simp only [own, outcome, timer]
        split_ifs with late
        · exact ⟨more, .late due worker own notComplete late unfailed more sends, adds⟩
        · exact ⟨more, .goesOn due worker own notComplete late unfailed next more sends, adds⟩
      rcases underWay.isComplete xmpp with
        ⟨unfailed, same⟩ | ⟨unfailed, expireDate, next, authorized, -, timer, same⟩ |
          ⟨finished, errors, subids, same⟩
      · exact goesOn _ _ [] same unfailed rfl (List.append_nil _).symm (by simp)
      · exact goesOn _ _ [.subscribe expireDate] same unfailed timer rfl fun effect member =>
          ⟨expireDate, List.mem_singleton.mp member, authorized⟩
      · have complete : (worker.isComplete xmpp).1 = true := congrArg Prod.fst same
        have sameWorker : (worker.isComplete xmpp).2.1 = finished := by rw [same]
        unfold handleReAuthorize
        simp only [own, same]
        cases error : finished.error with
        | true =>
          rw [if_pos rfl]
          exact ⟨[], .fails due worker own complete (sameWorker ▸ error), (List.append_nil _).symm⟩
        | false =>
          rw [if_neg Bool.false_ne_true]
          have unfailed : WorkerAnswer.failed ∉ watched.answers := fun failed => by
            rw [errors.mpr failed] at error
            cases error
          obtain ⟨accepted, only⟩ : (∃ subid, .accepted subid ∈ watched.answers) ∧
              ∀ other, .accepted other ∈ watched.answers → finished.subid = Strings.cStr other := by
            obtain ⟨subid, accepted, only⟩ := subids error
            exact ⟨⟨subid, accepted⟩, only⟩
          exact ⟨[], .succeeds due worker own complete (sameWorker ▸ error) unfailed _ accepted only,
            (List.append_nil _).symm⟩

namespace Renewal

variable {answers : List WorkerAnswer} {reading : Reading} {xmpp : Xmpp}
  {handler later : InitStateHandler} {more : List Effect}

theorem starts_iff (renewal : Renewal answers reading xmpp handler later more) :
    (handler.reauthorizer = none ∧ later.reauthorizer.isSome = true) ↔
      handler.reauthorizer = none ∧ handler.authTO.isExpired reading = true := by
  refine and_congr_right fun without => ?_
  cases renewal with
  | waits early => simp [without, early]
  | starts due => exact iff_of_true rfl due
  | goesOn due worker own | late due worker own | fails due worker own | succeeds due worker own =>
    rw [own] at without
    cases without

theorem authorizes_iff (renewal : Renewal answers reading xmpp handler later more) :
    (∃ contextId address password, .authorize contextId address password ∈ more) ↔
      handler.reauthorizer = none ∧ later.reauthorizer.isSome = true := by
  have others : (∀ effect ∈ more, ∃ expireDate, effect = .subscribe expireDate ∧
      WorkerAnswer.authorized expireDate ∈ answers) →
      ¬ ∃ contextId address password, .authorize contextId address password ∈ more := by
    rintro sends ⟨contextId, address, password, member⟩
    obtain ⟨expireDate, same, -⟩ := sends _ member
    cases same
  cases renewal with
  | waits early =>
    refine iff_of_false (by simp) ?_
    rintro ⟨without, some⟩
    rw [without] at some
    cases some
  | starts due without worker contextId address password =>
    exact iff_of_true ⟨contextId, address, password, List.mem_singleton_self _⟩ ⟨without, rfl⟩
  | goesOn due worker own notComplete inTime unfailed next more sends =>
    exact iff_of_false (others sends) (by simp [own])
  | late due worker own notComplete late unfailed more sends =>
    exact iff_of_false (others sends) (by simp)
  | fails | succeeds => exact iff_of_false (by simp) (by simp)

theorem authorized_of_subscribe (renewal : Renewal answers reading xmpp handler later more)
    {expireTime : TString} (member : .subscribe expireTime ∈ more) :
    .authorized expireTime ∈ answers := by
  have allowed : (∀ effect ∈ more, ∃ expireDate, effect = .subscribe expireDate ∧
      WorkerAnswer.authorized expireDate ∈ answers) → .authorized expireTime ∈ answers := by
    intro sends
    obtain ⟨expireDate, same, authorized⟩ := sends _ member
    cases same
    exact authorized
  cases renewal with
  | goesOn due worker own notComplete inTime unfailed next more sends => exact allowed sends
  | late due worker own notComplete late unfailed more sends => exact allowed sends
  | starts => simp at member
  | waits | fails | succeeds => exact absurd member List.not_mem_nil

theorem findsComplete_of_subid_ne (renewal : Renewal answers reading xmpp handler later more)
    (differs : later.subscribedSubid ≠ handler.subscribedSubid) :
    handler.FindsComplete false reading xmpp := by
  cases renewal with
  | succeeds due worker own complete error => exact ⟨due, worker, own, complete, error⟩
  | _ => exact absurd rfl differs

theorem findsComplete_of_authTO_ne (renewal : Renewal answers reading xmpp handler later more)
    (differs : later.authTO ≠ handler.authTO) :
    ∃ error, handler.FindsComplete error reading xmpp := by
  cases renewal with
  | fails due worker own complete error => exact ⟨true, due, worker, own, complete, error⟩
  | succeeds due worker own complete error => exact ⟨false, due, worker, own, complete, error⟩
  | _ => exact absurd rfl differs

/-- A poll that finds the worker complete without an error takes the subid it was given. -/
theorem of_findsComplete (renewal : Renewal answers reading xmpp handler later more)
    (finds : handler.FindsComplete false reading xmpp) :
    (∃ subid, .accepted subid ∈ answers) ∧
      (∀ subid, .accepted subid ∈ answers → later.subscribedSubid = Strings.cStr subid) ∧
      later.authTO = TimeOut.setMsecs reading subscribeTimeout ∧ later.state = handler.state ∧
      more = [] := by
  obtain ⟨due, worker, own, complete, error⟩ := finds
  cases renewal with
  | waits early =>
    rw [early] at due
    cases due
  | starts due without =>
    rw [without] at own
    cases own
  | goesOn due other same notComplete | late due other same notComplete =>
    rw [same] at own
    obtain rfl := Option.some.inj own
    rw [notComplete] at complete
    cases complete
  | fails due other same _ failed =>
    rw [same] at own
    obtain rfl := Option.some.inj own
    rw [failed] at error
    cases error
  | succeeds due other same _ _ unfailed subid accepted only => exact ⟨accepted, only, rfl, rfl, rfl⟩

/-- A poll that is due after an answer that fails the worker tries again later. -/
theorem of_failed (renewal : Renewal answers reading xmpp handler later more)
    (known : handler.reauthorizer = none → answers = []) (failed : .failed ∈ answers)
    (due : handler.authTO.isExpired reading = true) :
    later.state = handler.state ∧ later.subscribedSubid = handler.subscribedSubid ∧
      later.authTO = TimeOut.setMsecs reading subscribeQuickRetry ∧ later.reauthorizer = none ∧
      more = [] := by
  cases renewal with
  | waits early =>
    rw [early] at due
    cases due
  | starts _ without =>
    rw [known without] at failed
    exact absurd failed List.not_mem_nil
  | goesOn _ worker own notComplete inTime unfailed => exact absurd failed unfailed
  | late _ worker own notComplete late unfailed => exact absurd failed unfailed
  | fails => exact ⟨rfl, rfl, rfl, rfl, rfl⟩
  | succeeds _ worker own complete error unfailed => exact absurd failed unfailed

theorem state_eq (renewal : Renewal answers reading xmpp handler later more) :
    (¬ handler.FindsLate reading xmpp ∧ later.state = handler.state) ∨
      (handler.FindsLate reading xmpp ∧ later.state = .disconnected) := by
  cases renewal with
  | waits early =>
    refine Or.inl ⟨?_, rfl⟩
    rintro ⟨due, -⟩
    rw [early] at due
    cases due
  | starts due without =>
    refine Or.inl ⟨?_, rfl⟩
    rintro ⟨-, worker, own, -⟩
    rw [without] at own
    cases own
  | goesOn due worker own notComplete inTime =>
    refine Or.inl ⟨?_, rfl⟩
    rintro ⟨-, other, same, -, late⟩
    rw [own] at same
    obtain rfl := Option.some.inj same
    exact inTime late
  | late due worker own notComplete late => exact Or.inr ⟨⟨due, worker, own, notComplete, late⟩, rfl⟩
  | fails due worker own complete | succeeds due worker own complete =>
    refine Or.inl ⟨?_, rfl⟩
    rintro ⟨-, other, same, notComplete, -⟩
    rw [own] at same
    obtain rfl := Option.some.inj same
    rw [complete] at notComplete
    cases notComplete

end Renewal

/-- A poll of a login in use leaves it in use, or disconnects it. -/
theorem state_poll {handler : InitStateHandler} (ok : handler.state = .ok) {reading : Reading}
    {xmpp : Xmpp} {more : List Effect}
    (adds : (handler.renewed reading xmpp).2.2.effects = xmpp.effects ++ more)
    {attempt : Attempt} (polls : attempt.next = .poll reading xmpp) :
    ((handler.attempted attempt).state = .disconnected ∧
      ((handler.renewed reading xmpp).2.1.state = .disconnected ∨
        handler.LosesRequest attempt ∨ handler.LosesPing attempt)) ∨
    ((handler.attempted attempt).state = .ok ∧ (handler.renewed reading xmpp).2.1.state = .ok ∧
      ¬ (handler.LosesRequest attempt ∨ handler.LosesPing attempt)) := by
  obtain ⟨next, failures⟩ := attempt
  obtain rfl : next = .poll reading xmpp := polls
  obtain ⟨requests, pings⟩ := mem_sent_poll ok adds failures
  obtain ⟨asked, added, all, asks⟩ := effects_renewed reading handler xmpp
  obtain rfl : asked = more := List.append_cancel_left (added.symm.trans adds)
  have asks_iff : (∃ effect ∈ handler.sent ⟨.poll reading xmpp, failures⟩, Requests effect) ↔
      handler.asks reading = true := by
    rw [← asks, ne_eq, List.eq_nil_iff_forall_not_mem]
    constructor
    · rintro ⟨effect, member, request⟩ none
      exact none effect ((requests effect request).mp member)
    · intro some
      obtain ⟨effect, member⟩ := not_forall_not.mp some
      exact ⟨effect, (requests effect (all effect member)).mpr member, all effect member⟩
  have fails_iff : handler.Fails failures reading xmpp ↔
      handler.LosesRequest ⟨.poll reading xmpp, failures⟩ ∨
        handler.LosesPing ⟨.poll reading xmpp, failures⟩ := by
    unfold Fails LosesRequest LosesPing
    rw [asks_iff, pings]
  rw [← fails_iff]
  exact state_pollStateHandlerFailing ok failures reading xmpp

/-- A poll whose renewal makes no request and leaves the login in use disconnects it only by the
ping. -/
theorem ok_iff_of_silent {handler : InitStateHandler} (ok : handler.state = .ok)
    {reading : Reading} {xmpp : Xmpp}
    (adds : (handler.renewed reading xmpp).2.2.effects = xmpp.effects ++ [])
    (still : (handler.renewed reading xmpp).2.1.state = .ok) {attempt : Attempt}
    (polls : attempt.next = .poll reading xmpp) :
    (handler.attempted attempt).state = .ok ↔ ¬ handler.LosesPing attempt := by
  have kept : ¬ handler.LosesRequest attempt := by
    obtain ⟨next, failures⟩ := attempt
    obtain rfl : next = .poll reading xmpp := polls
    rintro ⟨-, effect, member, request⟩
    exact List.not_mem_nil (((mem_sent_poll ok adds failures).1 effect request).mp member)
  rcases state_poll ok adds polls with ⟨lost, late | request | ping⟩ | ⟨same, -, noneFails⟩
  · rw [still] at late
    cases late
  · exact absurd request kept
  · exact iff_of_false (by simp [lost]) (not_not.mpr ping)
  · exact iff_of_true same fun ping => noneFails (Or.inr ping)

theorem keepsSession_of_poll {watched : Watched} (known : watched.Known)
    (ok : watched.handler.state = .ok) {attempt : Attempt} {reading : Reading} {xmpp : Xmpp}
    (polls : attempt.next = .poll reading xmpp) : KeepsSession watched attempt := by
  obtain ⟨more, renewal, adds⟩ := known.renewal reading xmpp
  have states := state_poll ok adds polls
  have silent := fun adds still => ok_iff_of_silent ok adds still polls
  obtain ⟨next, failures⟩ := attempt
  obtain rfl : next = .poll reading xmpp := polls
  obtain ⟨requests, -⟩ := mem_sent_poll ok adds failures
  have session := (session_pollStateHandlerFailing failures reading watched.handler xmpp).trans
    (if_pos ok)
  have subid : (watched.handler.attempted ⟨.poll reading xmpp, failures⟩).subscribedSubid =
      (watched.handler.renewed reading xmpp).2.1.subscribedSubid := congrArg (·.1) session
  have authTO : (watched.handler.attempted ⟨.poll reading xmpp, failures⟩).authTO =
      (watched.handler.renewed reading xmpp).2.1.authTO := congrArg (·.2.1) session
  have reauthorizer : (watched.handler.attempted ⟨.poll reading xmpp, failures⟩).reauthorizer =
      (watched.handler.renewed reading xmpp).2.1.reauthorizer := congrArg (·.2.2) session
  have started : watched.handler.Starts ⟨.poll reading xmpp, failures⟩ ↔
      watched.handler.reauthorizer = none ∧
        (watched.handler.renewed reading xmpp).2.1.reauthorizer.isSome = true := by
    rw [Starts, reauthorizer]
  have polled : ∀ holds : Reading → Xmpp → Prop,
      (∃ other object, Move.poll reading xmpp = .poll other object ∧ holds other object) ↔
        holds reading xmpp := by
    intro holds
    constructor
    · rintro ⟨other, object, same, held⟩
      cases same
      exact held
    · exact fun held => ⟨reading, xmpp, rfl, held⟩
  have answerless : watched.handler.reauthorizer = none → watched.answers = [] := by
    intro without
    unfold Watched.Known at known
    rw [without] at known
    exact known
  constructor
  case starts =>
    rw [started, renewal.starts_iff, polled fun other _ =>
      watched.handler.authTO.isExpired other = true]
  case authorizes =>
    rw [started, ← renewal.authorizes_iff]
    exact exists_congr fun contextId => exists_congr fun address => exists_congr fun password =>
      requests _ (Or.inl ⟨_, _, _, rfl⟩)
  case subscribes =>
    intro expireTime member
    exact renewal.authorized_of_subscribe ((requests _ (Or.inr ⟨_, rfl⟩)).mp member)
  case changes =>
    intro differs
    refine ⟨reading, xmpp, rfl, renewal.findsComplete_of_subid_ne ?_⟩
    exact fun same => differs (subid.trans same)
  case rearms =>
    intro differs
    obtain ⟨error, finds⟩ :=
      renewal.findsComplete_of_authTO_ne fun same => differs (authTO.trans same)
    exact ⟨reading, xmpp, error, rfl, finds⟩
  case renews =>
    intro other object same finds
    cases same
    obtain ⟨accepted, only, rearmed, still, rfl⟩ := renewal.of_findsComplete finds
    refine ⟨accepted, fun given member => ?_, ?_, ?_⟩
    · have taken := subid.trans (only given member)
      exact ⟨taken, fun printable => taken.trans (Strings.cStr_eq_self printable)⟩
    · exact authTO.trans rearmed
    · exact silent adds (still.trans ok)
  case fails =>
    intro failed other object same due
    cases same
    obtain ⟨still, sameSubid, rearmed, without, rfl⟩ := renewal.of_failed answerless failed due
    exact ⟨silent adds (still.trans ok), subid.trans sameSubid, authTO.trans rearmed,
      reauthorizer.trans without⟩
  case disconnects =>
    rw [polled fun other object => watched.handler.FindsLate other object]
    rcases renewal.state_eq with ⟨inTime, still⟩ | ⟨late, lost⟩
    · rw [or_iff_right inTime]
      rcases states with ⟨gone, dropped | fails⟩ | ⟨same, -, noneFails⟩
      · rw [still, ok] at dropped
        cases dropped
      · exact iff_of_true gone fails
      · exact iff_of_false (by simp [same]) noneFails
    · rcases states with ⟨gone, -⟩ | ⟨-, same, -⟩
      · exact iff_of_true gone (Or.inl late)
      · rw [lost] at same
        cases same
  case stays => exact states.symm.imp And.left And.left

/-- The renewal keeps the session. In every history of the handler of the login, while it is in use, a
poll, a reply and a message start a worker only when the timer has expired and there is none, take
the subid only from a worker that is complete without an error, and disconnect only when the worker
is late or a request fails. -/
theorem keepsSession {reading : Reading} {attempts : List Attempt} {watched : Watched}
    (reached : run Watched.step attempts (Watched.new reading) = some watched)
    (inUse : watched.handler.state = .ok) {attempt : Attempt} (renews : attempt.next.Renews) :
    KeepsSession watched attempt := by
  obtain ⟨next, failures⟩ := attempt
  cases next with
  | event | check => exact renews.elim
  | poll other xmpp => exact keepsSession_of_poll (Watched.known_of_run reached) inUse rfl
  | reply event => exact keepsSession_of_answer inUse (by simp) rfl ⟨_, rfl⟩
  | message event => exact keepsSession_of_answer inUse (by simp) rfl ⟨_, rfl⟩

end InitStateHandler

namespace Example

/-- The moves of a login, in which no request fails -/
def attempts (moves : List InitStateHandler.Move) : List InitStateHandler.Attempt :=
  moves.map fun next => ⟨next, ⟨false, false⟩⟩

/-- A login that comes into use -/
def loginMoves : List InitStateHandler.Move :=
  authorizedMoves ++
    [.event (reading 3) ⟨[], false, 0, .subscribed true "sub".toList⟩ (Xmpp.new login)]

/-- A login is used for fifty minutes, and its renewal is authorized and then subscribed. -/
def renewalMoves : List InitStateHandler.Move :=
  loginMoves ++
    [.poll (reading 3000003) (Xmpp.new login),
      .reply (some ⟨[], false, 2, .auth "2030-01-02T00:00Z".toList⟩),
      .poll (reading 3000004) (Xmpp.new login),
      .message ⟨[], false, 0, .subscribed true "new".toList⟩]

end Example

open InitStateHandler Example in
/-- The next poll takes the subid of the new subscription. -/
theorem InitStateHandler.keepsSession_renewal : ∃ watched,
    run Watched.step (attempts renewalMoves) (Watched.new (reading 0)) = some watched ∧
      let attempt : Attempt := ⟨.poll (reading 3000005) (Xmpp.new login), ⟨false, false⟩⟩
      KeepsSession watched attempt ∧ watched.handler.subscribedSubid = "sub".toList ∧
        (watched.handler.attempted attempt).subscribedSubid = "new".toList := by
  have reached : run Watched.step (attempts renewalMoves) (Watched.new (reading 0)) = some _ := rfl
  have renews : Move.Renews (.poll (reading 3000005) (Xmpp.new login)) := trivial
  have keeps := @keepsSession _ _ _ reached rfl ⟨_, ⟨false, false⟩⟩ renews
  exact ⟨_, reached, keeps, rfl, rfl⟩

open InitStateHandler Example in
/-- A login in use that has no worker is disconnected by a ping that fails. -/
theorem InitStateHandler.keepsSession_pingFails : ∃ watched,
    run Watched.step (attempts loginMoves) (Watched.new (reading 0)) = some watched ∧
      let attempt : Attempt := ⟨.poll (reading 300001) (Xmpp.new login), ⟨false, true⟩⟩
      watched.handler.state = .ok ∧ watched.handler.reauthorizer = none ∧
        (watched.handler.attempted attempt).state = .disconnected :=
  ⟨_, rfl, rfl, rfl, rfl⟩

end JnTapi
