/-
This file proves that a login gets on.

What the wait for the login can see is the last state that was notified; behind it
are the states of the handlers. Every change of a state is notified, and it decides
the login or brings its handler nearer to a decision. A poll that finds a handler
waiting for longer than the time limit changes a state.
-/

import JnTapi.Init.Session

namespace JnTapi

/-! ### What the login looks like -/

namespace InitStates

/-- A handler in the state waits for an answer of the server. -/
def Waiting (state : InitStates) : Prop :=
  state = .preLogin ∨ state = .authorizing ∨ state = .enablingCallEvents

/-- How many answers a handler in the state can get before the one that decides -/
def ahead : InitStates → Nat
  | .preLogin => 2
  | .authorizing => 1
  | _ => 0

end InitStates

/-- The states of the handlers of the login, and the last one that was notified. -/
structure LoginView where
  items : List (StateItem InitStates XmppEvent Unit)
  last : InitStates

namespace LoginView

/-- How many answers the handlers can get before the ones that decide -/
def ahead (view : LoginView) : Nat := (view.items.map fun item => item.state.ahead).sum

/-- A handler waits for an answer. -/
def Waits (view : LoginView) : Prop := ∃ item ∈ view.items, item.state.Waiting

/-- Nothing changes, or a change is notified that decides the login or brings it nearer to a
decision. -/
inductive GetsOn (before after : LoginView) : Prop
  | stays (same : after = before)
  | decides (decided : after.last.Decided) (ahead : after.ahead ≤ before.ahead)
  | advances (ahead : after.ahead < before.ahead) (waits : after.Waits)

theorem GetsOn.ahead_le {before after : LoginView} (getsOn : before.GetsOn after) :
    after.ahead ≤ before.ahead := by
  rcases getsOn with same | ⟨-, ahead⟩ | ⟨ahead, -⟩
  · rw [same]
  · exact ahead
  · exact ahead.le

/-- Other handlers stand beside. -/
theorem GetsOn.beside {before after : List (StateItem InitStates XmppEvent Unit)}
    {last later : InitStates} (getsOn : GetsOn ⟨before, last⟩ ⟨after, later⟩)
    (left right : List (StateItem InitStates XmppEvent Unit)) :
    GetsOn ⟨left ++ before ++ right, last⟩ ⟨left ++ after ++ right, later⟩ := by
  have sums : ∀ items state, ahead ⟨left ++ items ++ right, state⟩ =
      ahead ⟨left, state⟩ + ahead ⟨items, state⟩ + ahead ⟨right, state⟩ := by
    intro items state
    simp only [ahead, List.map_append, List.sum_append]
  rcases getsOn with same | ⟨decided, fewer⟩ | ⟨fewer, item, member, waiting⟩
  · obtain ⟨rfl, rfl⟩ := LoginView.mk.inj same
    exact .stays rfl
  · refine .decides decided ?_
    rw [sums, sums]
    exact Nat.add_le_add_right (Nat.add_le_add_left fewer _) _
  · refine .advances ?_ ⟨item, ?_, waiting⟩
    · rw [sums, sums]
      exact Nat.add_lt_add_right (Nat.add_lt_add_left fewer _) _
    · exact List.mem_append_left _ (List.mem_append_right _ member)

end LoginView

open LoginView

namespace InitStateHandler

/-! ### Events -/

/-- A handler that accepts an event decides the login or waits for the next answer. -/
theorem getsOn_isYourEvent {handler : InitStateHandler} (going : handler.Going) {reading : Reading}
    {event : XmppEvent} (fromConnection : event.data.fromConnection = true) {xmpp : Xmpp}
    (accepted : (handler.isYourEvent reading event xmpp).1 = true) (last : InitStates) :
    GetsOn ⟨[handler.currentState], last⟩
      ⟨[(handler.isYourEvent reading event xmpp).2.1.currentState],
        (handler.isYourEvent reading event xmpp).2.1.state⟩ := by
  have decided : ∀ next : InitStateHandler, next.state.Decided → next.state.ahead = 0 →
      GetsOn ⟨[handler.currentState], last⟩ ⟨[next.currentState], next.state⟩ := by
    intro next decided none
    refine .decides decided ?_
    have nothing : LoginView.ahead ⟨[next.currentState], next.state⟩ = 0 := by
      rw [LoginView.ahead, List.map_singleton, List.sum_singleton]
      exact none
    rw [nothing]
    exact Nat.zero_le _
  have advanced : ∀ next : InitStateHandler, next.state.Waiting →
      next.state.ahead < handler.state.ahead →
      GetsOn ⟨[handler.currentState], last⟩ ⟨[next.currentState], next.state⟩ := by
    intro next waiting fewer
    refine .advances ?_ ⟨_, List.mem_singleton_self _, waiting⟩
    simp only [LoginView.ahead, List.map_singleton, List.sum_singleton]
    exact fewer
  rcases isYourEvent_cases reading handler event xmpp with
    ⟨state, success, same⟩ | ⟨state, same⟩ | ⟨-, subid, same⟩ | same
  · rcases (prelogon_accepted success reading handler event xmpp).2 with next | next
    · rw [← same] at next
      exact advanced _ (Or.inr (Or.inl next)) (by rw [next, state]; decide)
    · rw [← same] at next
      exact decided _ (by rw [next]; decide) (by rw [next]; rfl)
  · rcases (authorizing_accepted reading handler event xmpp).2 with next | next
    · rw [← same] at next
      exact advanced _ (Or.inr (Or.inr next)) (by rw [next, state]; decide)
    · rw [← same] at next
      exact decided _ (by rw [next]; decide) (by rw [next]; rfl)
  · rcases (enabling_accepted subid reading handler event xmpp).2 with next | next
    · rw [← same] at next
      exact decided _ (by rw [next]; decide) (by rw [next]; rfl)
    · rw [← same] at next
      exact decided _ (by rw [next]; decide) (by rw [next]; rfl)
  · rcases anyState_cases reading handler event xmpp with
      unchanged | ⟨-, ⟨-, next⟩ | ⟨request, -⟩ | ⟨shutting, -⟩⟩
    · rw [same, unchanged] at accepted
      cases accepted
    · rw [← same] at next
      exact decided _ (by rw [next]; decide) (by rw [next]; rfl)
    · rw [request] at fromConnection
      cases fromConnection
    · exact absurd shutting going.notShuttingDown

/-- What becomes of an event that is offered to handlers that are not shut down: all refuse it, or
the first that takes it is notified. -/
theorem signalEvent_going {handlers : List InitStateHandler}
    (going : ∀ handler ∈ handlers, handler.Going) (readings : Readings) {event : XmppEvent}
    (fromConnection : event.data.fromConnection = true) (xmpp : Xmpp) :
    ((∀ handler ∈ handlers, (handler.isYourEvent readings.offer event xmpp).1 = false) ∧
      StateMachine.signalEvent initVirtuals readings event false handlers xmpp =
        (false, handlers, xmpp)) ∨
    ∃ before handler after next later, handlers = before ++ handler :: after ∧
      (∀ earlier ∈ before, (earlier.isYourEvent readings.offer event xmpp).1 = false) ∧
      handler.isYourEvent readings.offer event xmpp = (true, next, later) ∧
      (∀ other ∈ before ++ next :: after, other.Going) ∧
      StateMachine.signalEvent initVirtuals readings event false handlers xmpp =
        (true, before ++ next :: after, next.onStateChange .isYourEventHandled later) := by
  have checked : ∀ {others : List InitStateHandler} (later : Xmpp),
      (∀ handler ∈ others, handler.Going) → StateMachine.checkStateHandlersExist initVirtuals
        readings.check others later = (others, later) := fun later each =>
    checkStateHandlersExist_alive (fun handler member => (each handler member).notShutDown) _ later
  rcases StateMachine.offer_cases refusesUnchanged_initVirtuals readings.offer event handlers xmpp
    with ⟨refusing, refused⟩ | ⟨before, handler, after, next, later, rfl, refusing, accepts, offered⟩
  · refine Or.inl ⟨refusing, ?_⟩
    have unknown : initVirtuals.unknownEvent readings.offer event xmpp = (none, xmpp) := rfl
    simp only [StateMachine.signalEvent, StateMachine.handleEvent, refused, unknown,
      Bool.false_eq_true, if_false, checked xmpp going]
  · have accepted : handler.isYourEvent readings.offer event xmpp = (true, next, later) := accepts
    have here := going handler (List.mem_append_right _ List.mem_cons_self)
    have nextGoing := here.isYourEvent readings.offer fromConnection xmpp
    rw [accepted] at nextGoing
    have all : ∀ other ∈ before ++ next :: after, other.Going := by
      intro other member
      rcases List.mem_append.mp member with first | rest
      · exact going other (List.mem_append_left _ first)
      · rcases List.mem_cons.mp rest with rfl | last
        · exact nextGoing
        · exact going other (List.mem_append_right _ (List.mem_cons_of_mem _ last))
    refine Or.inr ⟨before, handler, after, next, later, rfl, refusing, accepted, all, ?_⟩
    simp only [StateMachine.signalEvent, StateMachine.handleEvent, offered, checked _ all]
    rfl

/-- An event that is offered to the handlers gets the login on. -/
theorem getsOn_signalEvent {handlers : List InitStateHandler}
    (going : ∀ handler ∈ handlers, handler.Going) (readings : Readings) {event : XmppEvent}
    (fromConnection : event.data.fromConnection = true) (xmpp : Xmpp) :
    let signalled := StateMachine.signalEvent initVirtuals readings event false handlers xmpp
    (∀ handler ∈ signalled.2.1, handler.Going) ∧
      GetsOn ⟨handlers.map currentState, xmpp.lastInitState⟩
        ⟨signalled.2.1.map currentState, signalled.2.2.lastInitState⟩ := by
  intro signalled
  rcases signalEvent_going going readings fromConnection xmpp with
    ⟨-, left⟩ | ⟨before, handler, after, next, later, rfl, -, accepted, all, left⟩
  · rw [show signalled = _ from left]
    exact ⟨going, .stays rfl⟩
  · have here := going handler (List.mem_append_right _ List.mem_cons_self)
    have getsOn := getsOn_isYourEvent here fromConnection (congrArg Prod.fst accepted)
      xmpp.lastInitState
    rw [accepted] at getsOn
    rw [show signalled = _ from left]
    have beside := getsOn.beside (before.map currentState) (after.map currentState)
    simp only [List.append_assoc, List.singleton_append] at beside
    simp only [List.map_append, List.map_cons]
    exact ⟨all, beside⟩

/-! ### Polls -/

/-- The state has lasted for longer than the time limit. -/
def Late (reading : Reading) (item : StateItem InitStates XmppEvent Unit) : Prop :=
  generalCommunicationTimeout < item.msecsSinceLastStateChange reading

theorem checkStateTimeouts_late {reading : Reading} {states : List InitStates}
    {handler : InitStateHandler} (member : handler.state ∈ states)
    (late : Late reading handler.currentState) :
    (checkStateTimeouts reading states handler).1 = true := by
  induction states with
  | nil => cases member
  | cons initState rest inductionHypothesis =>
    simp only [checkStateTimeouts, checkStateTimeout]
    by_cases here : handler.state = initState ∧
        generalCommunicationTimeout < handler.currentState.msecsSinceLastStateChange reading
    · rw [if_pos here]
    · rw [if_neg here]
      refine inductionHypothesis ((List.mem_cons.mp member).resolve_left fun same => ?_)
      exact here ⟨same, late⟩

/-- A handler that has waited for too long changes when it is polled. -/
theorem pollStateHandler_late {reading : Reading} {handler : InitStateHandler} {xmpp : Xmpp}
    (waiting : handler.state.Waiting) (late : Late reading handler.currentState) :
    (handler.pollStateHandler reading xmpp).1 = true := by
  have member : handler.state ∈
      [InitStates.preLogin, .authorizing, .enablingCallEvents, .shuttingDown] := by
    rcases waiting with same | same | same <;> simp [same]
  have inUse : handler.state ≠ .ok := by
    rcases waiting with same | same | same <;> simp [same]
  have noRenewal : ¬ (handler.state = .ok ∧ handler.authTO.isExpired reading = true) :=
    fun both => inUse both.1
  have noPing : handler.pollPing reading xmpp = (handler, xmpp) := if_neg fun both => inUse both.1
  unfold pollStateHandler
  simp only [if_neg noRenewal, noPing]
  exact checkStateTimeouts_late member late

/-- A poll of the handlers leaves their states when none has waited for too long, or it notifies
that one is disconnected. -/
theorem pollUntilChange_cases {handlers : List InitStateHandler}
    (going : ∀ handler ∈ handlers, handler.Going) (poll : Nat → Reading) (xmpp : Xmpp) :
    let polled := StateMachine.pollUntilChange initVirtuals poll handlers xmpp
    (∀ handler ∈ polled.1, handler.Going) ∧
      ((polled.1.map currentState = handlers.map currentState ∧
          polled.2.lastInitState = xmpp.lastInitState ∧
          ∀ (index : Nat) (handler : InitStateHandler), handlers[index]? = some handler →
            handler.state.Waiting → ¬ Late (poll index) handler.currentState) ∨
        (polled.2.lastInitState = .disconnected ∧
          ahead ⟨polled.1.map currentState, .disconnected⟩ ≤
            ahead ⟨handlers.map currentState, .disconnected⟩)) := by
  induction handlers generalizing poll xmpp with
  | nil =>
    refine ⟨going, Or.inl ⟨rfl, rfl, fun index handler absent => ?_⟩⟩
    rw [List.getElem?_nil] at absent
    cases absent
  | cons handler rest inductionHypothesis =>
    have others := fun other member => going other (List.mem_cons_of_mem handler member)
    have nextGoing := (going handler List.mem_cons_self).pollStateHandler (poll 0) xmpp
    have quiet := (loginOnly_pollStateHandler (poll 0) handler xmpp).quiet
    have cases_ := pollStateHandler_cases (poll 0) handler xmpp
    have late := @pollStateHandler_late (poll 0) handler xmpp
    intro polled
    rcases outcome : handler.pollStateHandler (poll 0) xmpp with ⟨changed, next, later⟩
    have polls : initVirtuals.pollStateHandler (poll 0) handler xmpp = (changed, next, later) :=
      outcome
    rw [outcome] at nextGoing quiet cases_ late
    cases changed with
    | true =>
      have left : polled = (next :: rest, next.onStateChange .pollHandler later) :=
        StateMachine.pollUntilChange_changed polls
      obtain ⟨-, -, lost⟩ := cases_.resolve_left fun unchanged => by cases unchanged.1
      rw [left]
      refine ⟨List.forall_mem_cons.mpr ⟨nextGoing, others⟩, Or.inr ⟨lost, ?_⟩⟩
      have none : next.currentState.state.ahead = 0 := by
        rw [show next.currentState.state = _ from lost]
        rfl
      simp only [ahead, List.map_cons, List.sum_cons, none]
      omega
    | false =>
      obtain ⟨-, same⟩ := cases_.resolve_right fun lost => by cases lost.2.1
      obtain ⟨restGoing, tail⟩ := inductionHypothesis others (fun count => poll (count + 1)) later
      have left : polled = (next :: (StateMachine.pollUntilChange initVirtuals
          (fun count => poll (count + 1)) rest later).1, (StateMachine.pollUntilChange initVirtuals
          (fun count => poll (count + 1)) rest later).2) :=
        StateMachine.pollUntilChange_same polls
      rw [left]
      refine ⟨List.forall_mem_cons.mpr ⟨nextGoing, restGoing⟩, ?_⟩
      rcases tail with ⟨items, last, inTime⟩ | ⟨lost, fewer⟩
      · refine Or.inl ⟨?_, last.trans quiet.lastInitState, ?_⟩
        · rw [List.map_cons, List.map_cons, items]
          exact congrArg (· :: _) same
        · intro index other found waiting isLate
          cases index with
          | zero =>
            obtain rfl := Option.some.inj found
            cases late waiting isLate
          | succ index => exact inTime index other found waiting isLate
      · refine Or.inr ⟨lost, ?_⟩
        have first : next.currentState = handler.currentState := same
        simp only [ahead, List.map_cons, List.sum_cons, first] at fewer ⊢
        exact Nat.add_le_add_left fewer _

end InitStateHandler

/-! ### The machine of the login -/

/-- What the wait for the login sees of the machine -/
def loginView (machine : StateMachineBase InitStateHandler XmppEvent) (xmpp : Xmpp) : LoginView :=
  ⟨(machine.stateHandlers ++ machine.handlerRequests).map InitStateHandler.currentState,
    xmpp.lastInitState⟩

/-- No handler is shut down, and the next poll finds every new one. -/
structure LoggingIn (machine : StateMachineBase InitStateHandler XmppEvent) : Prop where
  going : ∀ handler ∈ machine.stateHandlers ++ machine.handlerRequests, handler.Going
  events : machine.events = []
  flagged : machine.handlerRequests = [] ∨ 0 < machine.requestChange

/-- Only the states of the handlers matter. -/
theorem LoggingIn.of_items {machine next : StateMachineBase InitStateHandler XmppEvent}
    (logging : LoggingIn machine)
    (items : (next.stateHandlers ++ next.handlerRequests).map InitStateHandler.currentState =
      (machine.stateHandlers ++ machine.handlerRequests).map InitStateHandler.currentState)
    (events : next.events = []) (flagged : next.handlerRequests = [] ∨ 0 < next.requestChange) :
    LoggingIn next := by
  refine ⟨fun handler member => ?_, events, flagged⟩
  have inside := List.mem_map_of_mem (f := InitStateHandler.currentState) member
  rw [items] at inside
  obtain ⟨other, among, same⟩ := List.mem_map.mp inside
  exact (logging.going other among).of_state (congrArg StateItem.state same.symm)

/-- All requests are taken, when the flag is set as long as there are some. -/
theorem getRequests_of_flagged {machine : StateMachineBase InitStateHandler XmppEvent}
    (flagged : machine.handlerRequests = [] ∨ 0 < machine.requestChange) :
    machine.getRequests.1 = machine.handlerRequests ∧
      machine.getRequests.2.handlerRequests = [] := by
  rcases flagged with none | flagged
  · have split := machine.getRequests_append
    rw [none, List.append_eq_nil_iff] at split
    rw [none]
    exact split
  · have all : machine.getRequests = machine.takeRequests := if_pos flagged
    rw [all]
    exact ⟨rfl, rfl⟩

open InitStateHandler in
/-- An event gets the login on. -/
theorem LoggingIn.signalEvent {machine : StateMachineBase InitStateHandler XmppEvent}
    (logging : LoggingIn machine) (readings : Readings) {event : XmppEvent}
    (fromConnection : event.data.fromConnection = true) (xmpp : Xmpp) :
    let signalled := machine.signalEvent initVirtuals readings event false xmpp
    LoggingIn signalled.2.1 ∧
      (loginView machine xmpp).GetsOn (loginView signalled.2.1 signalled.2.2) := by
  intro signalled
  obtain ⟨going, getsOn⟩ := getsOn_signalEvent (fun handler member =>
    logging.going handler (List.mem_append_left _ member)) readings fromConnection xmpp
  refine ⟨⟨?_, logging.events, logging.flagged⟩, ?_⟩
  · intro handler member
    rcases List.mem_append.mp member with listed | requested
    · exact going handler listed
    · exact logging.going handler (List.mem_append_right _ requested)
  · have beside := getsOn.beside [] (machine.handlerRequests.map currentState)
    rw [List.nil_append, List.nil_append, ← List.map_append, ← List.map_append] at beside
    exact beside

/-- Requests for new handlers of the login add them silently. -/
theorem handleRequests_init (readings : Nat → StateMachineBase.RequestReadings)
    {requests : List InitStateHandler} (going : ∀ handler ∈ requests, handler.Going)
    (handlers : List InitStateHandler) (xmpp : Xmpp) :
    StateMachineBase.handleRequests initVirtuals readings requests handlers xmpp =
      (handlers ++ requests, xmpp) := by
  induction requests generalizing readings handlers with
  | nil =>
    rw [List.append_nil]
    rfl
  | cons request rest inductionHypothesis =>
    have alive := (going request List.mem_cons_self).notShutDown
    have others := fun handler member => going handler (List.mem_cons_of_mem request member)
    simp only [StateMachineBase.handleRequests, handleRequest_init _ alive,
      inductionHypothesis _ others, List.append_assoc, List.singleton_append]

/-- A poll of the machine polls the handlers of the login, the new ones among them. -/
theorem LoggingIn.polled_eq {machine : StateMachineBase InitStateHandler XmppEvent}
    (logging : LoggingIn machine) (readings : StateMachineBase.PollReadings) (xmpp : Xmpp) :
    let polled := machine.pollStateHandlers initVirtuals readings xmpp
    let changed := StateMachine.pollUntilChange initVirtuals readings.last.poll
      (machine.stateHandlers ++ machine.handlerRequests) xmpp
    polled.1.stateHandlers = changed.1 ∧ polled.1.handlerRequests = [] ∧ polled.1.events = [] ∧
      polled.2 = changed.2 := by
  intro polled changed
  have taken := getRequests_of_flagged logging.flagged
  have added : StateMachineBase.handleRequests initVirtuals readings.requests
      machine.getRequests.1 machine.stateHandlers xmpp =
        (machine.stateHandlers ++ machine.handlerRequests, xmpp) := by
    rw [taken.1]
    exact handleRequests_init _ (fun handler member =>
      logging.going handler (List.mem_append_right _ member)) _ _
  obtain ⟨noneTaken, noneLeft⟩ := getEvents_of_nil (machine.events_getRequests.trans logging.events)
  have going := (InitStateHandler.pollUntilChange_cases logging.going readings.last.poll xmpp).1
  have checked := InitStateHandler.checkStateHandlersExist_alive
    (fun handler member => (going handler member).notShutDown) readings.last.check changed.2
  have left : polled = ({ machine.getRequests.2.getEvents.2 with stateHandlers := changed.1 },
      changed.2) := by
    simp only [polled, changed, StateMachineBase.pollStateHandlers_eq, added, noneTaken,
      StateMachineBase.signalEvents, StateMachine.pollStateHandlers, checked]
  rw [left]
  refine ⟨rfl, ?_, noneLeft, rfl⟩
  dsimp only
  rw [StateMachineBase.handlerRequests_getEvents]
  exact taken.2

open InitStateHandler in
/-- A poll leaves what the login looks like, when no handler has waited for too long, or it notifies
that a handler is disconnected. -/
theorem LoggingIn.pollMachine {machine : StateMachineBase InitStateHandler XmppEvent}
    (logging : LoggingIn machine) (readings : StateMachineBase.PollReadings) (xmpp : Xmpp) :
    let polled := machine.pollStateHandlers initVirtuals readings xmpp
    LoggingIn polled.1 ∧
      ((loginView polled.1 polled.2 = loginView machine xmpp ∧
          ∀ (index : Nat) (item : StateItem InitStates XmppEvent Unit),
            (loginView machine xmpp).items[index]? = some item → item.state.Waiting →
            ¬ Late (readings.last.poll index) item) ∨
        ((loginView polled.1 polled.2).last = .disconnected ∧
          (loginView polled.1 polled.2).ahead ≤ (loginView machine xmpp).ahead)) := by
  intro polled
  obtain ⟨handlers, requests, events, left⟩ := logging.polled_eq readings xmpp
  obtain ⟨going, cases_⟩ := pollUntilChange_cases logging.going readings.last.poll xmpp
  have listed : polled.1.stateHandlers ++ polled.1.handlerRequests =
      (StateMachine.pollUntilChange initVirtuals readings.last.poll
        (machine.stateHandlers ++ machine.handlerRequests) xmpp).1 := by
    rw [handlers, requests, List.append_nil]
  unfold loginView
  rw [listed, left]
  refine ⟨⟨listed ▸ going, events, Or.inl requests⟩, ?_⟩
  rcases cases_ with ⟨items, lastState, inTime⟩ | lost
  · refine Or.inl ⟨?_, ?_⟩
    · rw [items, lastState]
    · intro index item found waiting
      rw [List.getElem?_map] at found
      obtain ⟨handler, here, rfl⟩ := Option.map_eq_some_iff.mp found
      exact inTime index handler here waiting
  · exact Or.inr lost

end JnTapi
