/-
This file proves what one call of the login machine does to the states of its
handlers.

An event is taken by one handler at most, and a poll ends with the first handler
that reports a change. So at most one handler turns to another state, and its new
state is the one that is notified.
-/

import JnTapi.Init.Progress

namespace JnTapi

namespace LoginView

/-- No handler turns to another state, or one turns to the given one, which is notified. -/
inductive Turns (before after : LoginView) : Option InitStates → Prop
  | stays (same : after = before) : Turns before after none
  | turns (front back : List (StateItem InitStates XmppEvent Unit))
      (earlier item : StateItem InitStates XmppEvent Unit)
      (old : before.items = front ++ earlier :: back) (new : after.items = front ++ item :: back)
      (last : after.last = item.state) : Turns before after (some item.state)

/-- Other handlers stand beside. -/
theorem Turns.beside {before after : List (StateItem InitStates XmppEvent Unit)}
    {last later : InitStates} {turn : Option InitStates}
    (turns : Turns ⟨before, last⟩ ⟨after, later⟩ turn)
    (left right : List (StateItem InitStates XmppEvent Unit)) :
    Turns ⟨left ++ before ++ right, last⟩ ⟨left ++ after ++ right, later⟩ turn := by
  cases turns with
  | stays same =>
    obtain ⟨rfl, rfl⟩ := LoginView.mk.inj same
    exact .stays rfl
  | turns front back earlier item old new lastState =>
    change before = front ++ earlier :: back at old
    change after = front ++ item :: back at new
    refine .turns (left ++ front) (back ++ right) earlier item ?_ ?_ lastState
    · rw [old]
      simp
    · rw [new]
      simp

/-- What was notified last is the state that a handler has turned to, or what it was before. -/
theorem Turns.last {before after : LoginView} {turn : Option InitStates}
    (turns : Turns before after turn) : after.last = turn.getD before.last := by
  cases turns with
  | stays same => rw [same, Option.getD_none]
  | turns front back earlier item old new last => rw [last, Option.getD_some]

/-- When the last of the handlers is in another state afterwards, then this is the state that a
handler has turned to. -/
theorem Turns.of_last {before after : LoginView} {turn : Option InitStates}
    (turns : Turns before after turn) {item : StateItem InitStates XmppEvent Unit}
    (new : item ∈ after.items.getLast?)
    (other : ∀ earlier ∈ before.items.getLast?, earlier.state ≠ item.state) :
    turn = some item.state := by
  cases turns with
  | stays same => exact absurd rfl (other item (same ▸ new))
  | turns front back earlier next old nextItems last =>
    rw [nextItems] at new
    rw [old] at other
    cases back with
    | nil =>
      rw [List.getLast?_concat] at new
      rw [Option.some.inj new]
    | cons following rest =>
      have same : ∀ first : StateItem InitStates XmppEvent Unit,
          (front ++ first :: following :: rest).getLast? = (following :: rest).getLast? := by
        intro first
        rw [List.append_cons, List.getLast?_append_of_ne_nil _ (List.cons_ne_nil _ _)]
      rw [same] at new other
      exact absurd rfl (other item new)

end LoginView

open LoginView

namespace InitStateHandler

/-- The state that the event takes a handler to: the first that takes the event at all -/
def stateAfterEvent? (reading : Reading) (event : XmppEvent) (xmpp : Xmpp)
    (handlers : List InitStateHandler) : Option InitStates :=
  (handlers.find? fun handler => (handler.isYourEvent reading event xmpp).1).map fun handler =>
    (handler.isYourEvent reading event xmpp).2.1.state

/-- The state that a poll takes a handler to: the first that reports a change -/
def stateAfterPoll? (poll : Nat → Reading) (xmpp : Xmpp) :
    List InitStateHandler → Option InitStates
  | [] => none
  | handler :: rest =>
    if (handler.pollStateHandler (poll 0) xmpp).1 then
      some (handler.pollStateHandler (poll 0) xmpp).2.1.state
    else stateAfterPoll? (fun count => poll (count + 1)) xmpp rest

/-- The turn of an event that is offered to the handlers -/
theorem turns_signalEvent {handlers : List InitStateHandler}
    (going : ∀ handler ∈ handlers, handler.Going) (readings : Readings) {event : XmppEvent}
    (fromConnection : event.data.fromConnection = true) (xmpp : Xmpp) :
    let signalled := StateMachine.signalEvent initVirtuals readings event false handlers xmpp
    Turns ⟨handlers.map currentState, xmpp.lastInitState⟩
      ⟨signalled.2.1.map currentState, signalled.2.2.lastInitState⟩
      (stateAfterEvent? readings.offer event xmpp handlers) := by
  intro signalled
  rcases signalEvent_going going readings fromConnection xmpp with
    ⟨refusing, left⟩ | ⟨before, handler, after, next, later, rfl, refusing, accepts, -, left⟩
  · have none : stateAfterEvent? readings.offer event xmpp handlers = none := by
      rw [stateAfterEvent?, List.find?_eq_none.mpr fun handler member => by
        rw [refusing handler member]
        exact Bool.false_ne_true, Option.map_none]
    rw [none, show signalled = _ from left]
    exact .stays rfl
  · have found : stateAfterEvent? readings.offer event xmpp (before ++ handler :: after) =
        some next.state := by
      have first : (before ++ handler :: after).find?
          (fun handler => (handler.isYourEvent readings.offer event xmpp).1) = some handler := by
        rw [List.find?_eq_some_iff_append]
        refine ⟨by rw [accepts], before, after, rfl, fun earlier member => ?_⟩
        rw [refusing earlier member]
        rfl
      rw [stateAfterEvent?, first, Option.map_some, accepts]
    rw [found, show signalled = _ from left]
    refine .turns (before.map currentState) (after.map currentState) handler.currentState
      next.currentState ?_ ?_ rfl
    · simp only [List.map_append, List.map_cons]
    · simp only [List.map_append, List.map_cons]

/-- What a poll makes of a handler does not depend on the object. -/
theorem pollStateHandler_eq (reading : Reading) (handler : InitStateHandler) (xmpp other : Xmpp) :
    (handler.pollStateHandler reading other).1 = (handler.pollStateHandler reading xmpp).1 ∧
      (handler.pollStateHandler reading other).2.1.state =
        (handler.pollStateHandler reading xmpp).2.1.state := by
  obtain ⟨flag, next⟩ :=
    handler.pollStateHandler_withContext handler.contextId reading xmpp other
  rw [withContext_self] at flag next
  exact ⟨flag, by rw [next, state_withContext]⟩

theorem stateAfterPoll?_eq (poll : Nat → Reading) (xmpp other : Xmpp)
    (handlers : List InitStateHandler) :
    stateAfterPoll? poll other handlers = stateAfterPoll? poll xmpp handlers := by
  induction handlers generalizing poll with
  | nil => rfl
  | cons handler rest inductionHypothesis =>
    obtain ⟨flag, next⟩ := pollStateHandler_eq (poll 0) handler xmpp other
    rw [stateAfterPoll?, stateAfterPoll?, flag, next, inductionHypothesis]

/-- The turn of a poll of the handlers -/
theorem turns_pollUntilChange (poll : Nat → Reading) (handlers : List InitStateHandler)
    (xmpp : Xmpp) :
    let polled := StateMachine.pollUntilChange initVirtuals poll handlers xmpp
    Turns ⟨handlers.map currentState, xmpp.lastInitState⟩
      ⟨polled.1.map currentState, polled.2.lastInitState⟩
      (stateAfterPoll? poll xmpp handlers) := by
  induction handlers generalizing poll xmpp with
  | nil => exact .stays rfl
  | cons handler rest inductionHypothesis =>
    have quiet := (loginOnly_pollStateHandler (poll 0) handler xmpp).quiet
    have cases_ := pollStateHandler_cases (poll 0) handler xmpp
    intro polled
    rw [stateAfterPoll?]
    rcases outcome : handler.pollStateHandler (poll 0) xmpp with ⟨changed, next, later⟩
    have polls : initVirtuals.pollStateHandler (poll 0) handler xmpp = (changed, next, later) :=
      outcome
    rw [outcome] at quiet cases_
    cases changed with
    | true =>
      have left : polled = (next :: rest, next.onStateChange .pollHandler later) :=
        StateMachine.pollUntilChange_changed polls
      rw [if_pos rfl, left]
      exact .turns [] (rest.map currentState) handler.currentState next.currentState rfl rfl rfl
    | false =>
      obtain ⟨-, same⟩ := cases_.resolve_right fun lost => by cases lost.2.1
      have left : polled = (next :: (StateMachine.pollUntilChange initVirtuals
          (fun count => poll (count + 1)) rest later).1, (StateMachine.pollUntilChange initVirtuals
          (fun count => poll (count + 1)) rest later).2) :=
        StateMachine.pollUntilChange_same polls
      have tail := (inductionHypothesis (fun count => poll (count + 1)) later).beside
        [handler.currentState] []
      rw [List.append_nil, List.append_nil, List.singleton_append, List.singleton_append,
        quiet.lastInitState, stateAfterPoll?_eq _ xmpp later] at tail
      have first : next.currentState = handler.currentState := same
      rw [if_neg Bool.false_ne_true, left, List.map_cons, List.map_cons, first]
      exact tail

end InitStateHandler

/-! ### The machine of the login -/

open InitStateHandler

/-- The turn of an event -/
theorem LoggingIn.turns_signalEvent {machine : StateMachineBase InitStateHandler XmppEvent}
    (logging : LoggingIn machine) (readings : Readings) {event : XmppEvent}
    (fromConnection : event.data.fromConnection = true) (xmpp : Xmpp) :
    let signalled := machine.signalEvent initVirtuals readings event false xmpp
    Turns (loginView machine xmpp) (loginView signalled.2.1 signalled.2.2)
      (stateAfterEvent? readings.offer event xmpp machine.stateHandlers) := by
  intro signalled
  have turns := (InitStateHandler.turns_signalEvent (fun handler member =>
    logging.going handler (List.mem_append_left _ member)) readings fromConnection xmpp).beside []
      (machine.handlerRequests.map currentState)
  rw [List.nil_append, List.nil_append, ← List.map_append, ← List.map_append] at turns
  exact turns

/-- The turn of a poll -/
theorem LoggingIn.turns_pollMachine {machine : StateMachineBase InitStateHandler XmppEvent}
    (logging : LoggingIn machine) (readings : StateMachineBase.PollReadings) (xmpp : Xmpp) :
    let polled := machine.pollStateHandlers initVirtuals readings xmpp
    Turns (loginView machine xmpp) (loginView polled.1 polled.2)
      (stateAfterPoll? readings.last.poll xmpp (machine.stateHandlers ++ machine.handlerRequests)) := by
  intro polled
  obtain ⟨handlers, requests, -, left⟩ := logging.polled_eq readings xmpp
  unfold loginView
  rw [handlers, requests, left, List.append_nil]
  exact turns_pollUntilChange readings.last.poll _ xmpp

end JnTapi
