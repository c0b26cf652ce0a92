/-
This file proves when a login that is in use is subscribed to the call events.

The first subscription and its renewal judge the same message. The renewal asks
for a message without an error that says `subscribed`; the handler of the login
does not look at what the message says. They agree on a message that has an error
or says `subscribed`, and on no other.
-/

import JnTapi.Library.Runs
import JnTapi.Stanzas
import JnTapi.Init.Session
import JnTapi.Call.System

namespace JnTapi

open Library XmppEventFactory

namespace InitStateHandler

/-! ### The moves of the handler, one by one -/

/-- One call of a method of the handler, or a reply or a message to its worker, with its
arguments -/
inductive Move
  | event (reading : Reading) (event : XmppEvent) (xmpp : Xmpp)
  | check (xmpp : Xmpp)
  | poll (reading : Reading) (xmpp : Xmpp)
  | reply (event : Option XmppEvent)
  | message (event : XmppEvent)

/-- The handler after the move -/
def moved (handler : InitStateHandler) : Move → InitStateHandler
  | .event reading event xmpp => (handler.isYourEvent reading event xmpp).2.1
  | .check xmpp => (handler.isStillExist xmpp).2.1
  | .poll reading xmpp => (handler.pollStateHandler reading xmpp).2.1
  | .reply event => handler.handleIqID event
  | .message event => handler.handleMessage event

/-- A move as a step of the handler. It is always enabled. -/
def move (handler : InitStateHandler) (next : Move) : Option InitStateHandler :=
  some (handler.moved next)

/-- What a handler has become it has become by such moves. -/
theorem evolves_iff {handler last : InitStateHandler} :
    Evolves handler last ↔ ∃ moves, run move moves handler = some last := by
  constructor
  · intro evolves
    induction evolves with
    | refl => exact ⟨[], rfl⟩
    | tail _ moves inductionHypothesis =>
      obtain ⟨earlier, reached⟩ := inductionHypothesis
      cases moves with
      | isYourEvent reading _ event xmpp =>
        exact ⟨earlier ++ [.event reading event xmpp],
          run_append_eq_some.mpr ⟨_, reached, rfl⟩⟩
      | isStillExist _ xmpp =>
        exact ⟨earlier ++ [.check xmpp], run_append_eq_some.mpr ⟨_, reached, rfl⟩⟩
      | pollStateHandler reading _ xmpp =>
        exact ⟨earlier ++ [.poll reading xmpp], run_append_eq_some.mpr ⟨_, reached, rfl⟩⟩
      | handleIqID event _ =>
        exact ⟨earlier ++ [.reply event], run_append_eq_some.mpr ⟨_, reached, rfl⟩⟩
      | handleMessage event _ =>
        exact ⟨earlier ++ [.message event], run_append_eq_some.mpr ⟨_, reached, rfl⟩⟩
  · rintro ⟨moves, reached⟩
    refine run_related Evolves (fun _ => .refl) .trans ?_ reached
    intro before next after stepped
    obtain rfl := Option.some.inj stepped
    cases next with
    | event reading event xmpp => exact .single (.isYourEvent reading before event xmpp)
    | check xmpp => exact .single (.isStillExist before xmpp)
    | poll reading xmpp => exact .single (.pollStateHandler reading before xmpp)
    | reply event => exact .single (.handleIqID event before)
    | message event => exact .single (.handleMessage event before)

/-! ### The first subscription -/

/-- The move is an answer to the subscription that has no error and says this. -/
def Move.Answers (isSubscribed : Bool) (next : Move) : Prop :=
  ∃ reading event xmpp subid, next = .event reading event xmpp ∧ event.isError = false ∧
    event.data = .subscribed isSubscribed subid

/-- A handler that waits for the answer to its subscription goes to `OK` on an answer without an
error, whatever it says. -/
theorem moved_ok_iff {handler : InitStateHandler} (enabling : handler.state = .enablingCallEvents)
    (next : Move) :
    (handler.moved next).state = .ok ↔ next.Answers true ∨ next.Answers false := by
  constructor
  · intro ok
    cases next with
    | event reading event xmpp =>
      obtain ⟨id, isError, context, data⟩ := event
      unfold moved isYourEvent at ok
      rw [enabling] at ok
      cases data with
      | subscribed isSubscribed subid =>
        cases isError with
        | true => cases ok
        | false =>
          cases isSubscribed with
          | true => exact Or.inl ⟨reading, _, xmpp, subid, rfl, rfl, rfl⟩
          | false => exact Or.inr ⟨reading, _, xmpp, subid, rfl, rfl, rfl⟩
      | iqResult =>
        simp [anyState, enabling] at ok
      | onDisconnect => cases ok
      | shutdownRequest => cases ok
      | _ =>
        have unchanged : handler.state = .ok := ok
        rw [enabling] at unchanged
        cases unchanged
    | check xmpp =>
      unfold moved isStillExist at ok
      simp [enabling] at ok
    | poll reading xmpp =>
      rcases pollStateHandler_cases reading handler xmpp with ⟨-, same⟩ | ⟨-, -, lost⟩
      · have unchanged : (handler.moved (.poll reading xmpp)).state = handler.state :=
          congrArg StateItem.state same
        rw [unchanged, enabling] at ok
        cases ok
      · rw [show (handler.moved (.poll reading xmpp)).state = _ from lost] at ok
        cases ok
    | reply event =>
      rw [show (handler.moved (.reply event)).state = _ from enabling] at ok
      cases ok
    | message event =>
      rw [show (handler.moved (.message event)).state = _ from enabling] at ok
      cases ok
  · have accepted : ∀ {isSubscribed}, next.Answers isSubscribed →
        (handler.moved next).state = .ok := by
      rintro isSubscribed ⟨reading, ⟨id, isError, context, data⟩, xmpp, subid, rfl, fine, answer⟩
      dsimp only at fine answer
      unfold moved isYourEvent
      rw [enabling, fine, answer]
      rfl
    exact Or.rec accepted accepted

/-- A handler that waits for the answer to its subscription goes to `OK` only on an answer without
an error that says `subscribed`. -/
def OkSubscribed (handler : InitStateHandler) (next : Move) : Prop :=
  handler.state = .enablingCallEvents → (handler.moved next).state = .ok → next.Answers true

/-- No handler that waits for the answer to its subscription is given an answer without an error
that says something else. -/
def NotRefused (handler : InitStateHandler) (next : Move) : Prop :=
  handler.state = .enablingCallEvents → ¬ next.Answers false

theorem okSubscribed_iff (handler : InitStateHandler) (next : Move) :
    handler.OkSubscribed next ↔ handler.NotRefused next := by
  constructor
  · rintro subscribed enabling ⟨reading, event, xmpp, subid, rfl, fine, answer⟩
    have ok := (moved_ok_iff enabling (.event reading event xmpp)).mpr
      (Or.inr ⟨reading, event, xmpp, subid, rfl, fine, answer⟩)
    obtain ⟨_, _, _, _, same, -, other⟩ := subscribed enabling ok
    cases same
    rw [answer] at other
    cases other
  · intro notRefused enabling ok
    rcases (moved_ok_iff enabling next).mp ok with subscribed | refused
    · exact subscribed
    · exact absurd refused (notRefused enabling)

/-! ### The same message for both -/

/-- The handler takes the message for the success of its subscription. -/
def AcceptsAsSuccess (reading : Reading) (msg : Message) (xmpp : Xmpp)
    (handler : InitStateHandler) : Prop :=
  ∃ event, msgFactory msg = .ok (some event) ∧
    (handler.isYourEvent reading event xmpp).2.1.state = .ok

end InitStateHandler

/-- The worker takes the message for the success of its subscription. -/
def EnableCallEventsWorker.AcceptsAsSuccess (msg : Message) (worker : EnableCallEventsWorker) :
    Prop :=
  ∃ event, msgFactory msg = .ok (some event) ∧ (worker.handleMessage event).complete = true ∧
    (worker.handleMessage event).error = false

/-- The event of a message about a subscription -/
theorem msgFactory_subscribed {msg : Message} {pss : PubSubSubscribedExt}
    (about : msg.subscribed = some pss) :
    msgFactory msg = .ok (some ⟨msg.id, msg.hasError, 0,
      .subscribed (pss.subscription = "subscribed".toList) pss.subid⟩) := by
  unfold msgFactory checkSubscribed
  rw [about]
  rfl

open InitStateHandler in
/-- When a login in use is subscribed. In every history of the handler of the login, it goes from
`EnablingCallEvents` to `OK` only on a message without an error that says `subscribed`, exactly if
it is never given one without an error that says something else while it waits. And for every message about
a subscription, the first subscription takes it for a success exactly when the renewal does, if
and only if the message has an error or says `subscribed`. -/
theorem okSubscribed (start : InitStateHandler) :
    (∀ moves, Along move OkSubscribed moves start ↔ Along move NotRefused moves start) ∧
    ∀ msg pss, msg.subscribed = some pss →
      ∀ (handler : InitStateHandler) (worker : EnableCallEventsWorker) reading xmpp,
        handler.state = .enablingCallEvents → worker.complete = false → worker.error = false →
        ((handler.AcceptsAsSuccess reading msg xmpp ↔ worker.AcceptsAsSuccess msg) ↔
          (msg.hasError = true ∨ pss.subscription = "subscribed".toList)) := by
  constructor
  · intro moves
    constructor
    · exact fun along => along.mono fun handler next => (okSubscribed_iff handler next).mp
    · exact fun along => along.mono fun handler next => (okSubscribed_iff handler next).mpr
  · intro msg pss about handler worker reading xmpp waits waiting fine
    have made := msgFactory_subscribed about
    generalize "subscribed".toList = word at made ⊢
    have first : handler.AcceptsAsSuccess reading msg xmpp ↔ msg.hasError = false := by
      unfold InitStateHandler.AcceptsAsSuccess isYourEvent
      rw [made, waits]
      cases msg.hasError with
      | true =>
        refine iff_of_false ?_ Bool.true_eq_false_eq_False
        rintro ⟨event, same, ok⟩
        obtain rfl := Option.some.inj (Except.ok.inj same)
        cases ok
      | false => exact iff_of_true ⟨_, rfl, rfl⟩ rfl
    have renewal : worker.AcceptsAsSuccess msg ↔
        msg.hasError = false ∧ pss.subscription = word := by
      unfold EnableCallEventsWorker.AcceptsAsSuccess EnableCallEventsWorker.handleMessage
      rw [made]
      by_cases text : pss.subscription = word
      · cases msg.hasError <;> simp [waiting, fine, text]
      · cases msg.hasError <;> simp [waiting, text]
    rw [first, renewal]
    cases msg.hasError <;> simp

namespace Example

/-- The answer to the subscription that says this -/
def subscription (text : String) : Message :=
  ⟨.normal, [], [], false, some ⟨text.toList, "sub".toList⟩, none⟩

/-- The server accepts the connection and then the authorization. -/
def authorizedMoves : List InitStateHandler.Move :=
  [.event (reading 1) (.connectFactory true) (Xmpp.new login),
    .event (reading 2) ⟨[], false, 1, .auth "2030-01-01T00:00Z".toList⟩ (Xmpp.new login)]

end Example

open InitStateHandler in
/-- The server accepts the subscription, and both take its answer for a success. -/
theorem okSubscribed_subscribed :
    let start := InitStateHandler.new (Example.reading 0)
    let answer : Move :=
      .event (Example.reading 3) ⟨[], false, 0, .subscribed true "sub".toList⟩
        (Xmpp.new Example.login)
    Along move OkSubscribed (Example.authorizedMoves ++ [answer]) start ∧
    ∃ handler, run move Example.authorizedMoves start = some handler ∧
      (handler.AcceptsAsSuccess (Example.reading 3) (Example.subscription "subscribed")
        (Xmpp.new Example.login) ↔
      EnableCallEventsWorker.new.AcceptsAsSuccess (Example.subscription "subscribed")) := by
  intro start answer
  have given : ∀ {isSubscribed : Bool} {next : Move}, next ∈ Example.authorizedMoves ++ [answer] →
      next.Answers isSubscribed → isSubscribed = true := by
    rintro isSubscribed next member ⟨reading, event, xmpp, subid, rfl, -, data⟩
    simp only [Example.authorizedMoves, answer, List.cons_append, List.nil_append, List.mem_cons,
      List.not_mem_nil, or_false, Move.event.injEq] at member
    rcases member with ⟨-, rfl, -⟩ | ⟨-, rfl, -⟩ | ⟨-, rfl, -⟩
    · cases data
    · cases data
    · exact (XmppEventData.subscribed.inj data).1.symm
  have notRefused : Along move NotRefused (Example.authorizedMoves ++ [answer]) start := by
    refine along_of_at_split fun first next rest before split reached enabling refused => ?_
    have member : next ∈ Example.authorizedMoves ++ [answer] :=
      split ▸ List.mem_append_right _ List.mem_cons_self
    exact absurd (given member refused) Bool.false_ne_true
  refine ⟨((okSubscribed start).1 _).mpr notRefused, _, rfl, ?_⟩
  exact ((okSubscribed start).2 (Example.subscription "subscribed") _ rfl _ _ _ _ rfl rfl
    rfl).mpr (Or.inr rfl)

open InitStateHandler in
/-- An answer that says `pending` puts the login in use, and the renewal takes it for an error. -/
theorem okSubscribed_pending :
    ¬ ∀ (moves : List Move) (handler : InitStateHandler) (reading : Reading) (msg : Message)
      (xmpp : Xmpp), run move moves (InitStateHandler.new (Example.reading 0)) = some handler →
        handler.state = .enablingCallEvents →
        (handler.AcceptsAsSuccess reading msg xmpp ↔
          EnableCallEventsWorker.new.AcceptsAsSuccess msg) := by
  intro agree
  have both := agree Example.authorizedMoves _ (Example.reading 3) (Example.subscription "pending")
    (Xmpp.new Example.login) rfl rfl
  obtain ⟨event, made, -, fine⟩ := both.mp ⟨_, rfl, rfl⟩
  obtain rfl := Option.some.inj (Except.ok.inj made)
  exact absurd fine (by decide)

end JnTapi
