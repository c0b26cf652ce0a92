/-
This file proves when the events of a connection reach the handler of their session.

`Start` puts the new handler into the queue of the login machine, behind the handlers
of earlier sessions that still wait there, and only a poll moves them into the
machine. The machine is polled when `AsyncPolling` finds that the timer of its loop
has run out. A callback in an earlier `recv` signals its event to a machine that has
no handler.
-/

import JnTapi.FatalLogin

namespace JnTapi

open Library

/-! ### The handlers that take an event of the connection -/

namespace InitStateHandler

/-- A handler that connects takes the connect event; every handler takes the disconnect event. -/
def TakesConnection (connect : Bool) (handler : InitStateHandler) : Prop :=
  connect = true → handler.state = .preLogin

instance (connect : Bool) (handler : InitStateHandler) :
    Decidable (handler.TakesConnection connect) :=
  inferInstanceAs (Decidable (connect = true → handler.state = .preLogin))

/-- The event that the callbacks signal, with any context -/
def connectionEvent (connect : Bool) (context : Long) : XmppEvent :=
  { XmppEvent.connectFactory connect with context := context }

theorem isYourEvent_connectionEvent (connect : Bool) (context : Long) (reading : Reading)
    (handler : InitStateHandler) (xmpp : Xmpp) :
    (handler.isYourEvent reading (connectionEvent connect context) xmpp).1 = true ↔
      handler.TakesConnection connect := by
  unfold isYourEvent TakesConnection
  cases connect with
  | true =>
    cases handler.state with
    | preLogin => exact iff_of_true rfl fun _ => rfl
    | _ => exact iff_of_false Bool.false_ne_true fun takes => InitStates.noConfusion (takes rfl)
  | false =>
    have any : ¬ false = true := Bool.false_ne_true
    cases handler.state with
    | _ => exact iff_of_true rfl fun connects => absurd connects any

theorem isYourEvent_shutdownRequest {event : XmppEvent} (request : event.data = .shutdownRequest)
    (reading : Reading) (handler : InitStateHandler) (xmpp : Xmpp) :
    (handler.isYourEvent reading event xmpp).1 = true := by
  unfold isYourEvent anyState
  rw [request]
  cases handler.state <;> rfl

/-! ### The last handler -/

/-- The second handler is what the first has become, and is not being shut down unless the first
was. -/
def Follows (handler next : InitStateHandler) : Prop :=
  handler.Evolves next ∧ (handler.Going → next.Going)

theorem Follows.refl (handler : InitStateHandler) : handler.Follows handler :=
  ⟨.refl, id⟩

theorem forall₂_follows_refl (handlers : List InitStateHandler) :
    List.Forall₂ Follows handlers handlers :=
  List.forall₂_same.mpr fun handler _ => Follows.refl handler

theorem follows_pollStateHandler (reading : Reading) (handler : InitStateHandler) (xmpp : Xmpp) :
    handler.Follows (handler.pollStateHandler reading xmpp).2.1 :=
  ⟨.single (.pollStateHandler reading handler xmpp), fun going =>
    going.pollStateHandler reading xmpp⟩

theorem follows_isYourEvent (reading : Reading) (handler : InitStateHandler) {event : XmppEvent}
    (fromConnection : event.data.fromConnection = true) (xmpp : Xmpp) :
    handler.Follows (handler.isYourEvent reading event xmpp).2.1 :=
  ⟨.single (.isYourEvent reading handler event xmpp), fun going =>
    going.isYourEvent reading fromConnection xmpp⟩

/-- The last of the handlers is what the given one has become. It is not being shut down as long as
it has others in front. -/
def OwnLast (origin : InitStateHandler) (handlers : List InitStateHandler) : Prop :=
  handlers = [] ∨ ∃ older own, handlers = older ++ [own] ∧ origin.Evolves own ∧
    (own.Going ∨ older = [])

/-- What is related to the last member of a list is the last member of the related list. -/
theorem forall₂_concat {related : InitStateHandler → InitStateHandler → Prop}
    {older next : List InitStateHandler} {own : InitStateHandler}
    (each : List.Forall₂ related (older ++ [own]) next) :
    ∃ before last, next = before ++ [last] ∧ List.Forall₂ related older before ∧
      related own last := by
  induction older generalizing next with
  | nil =>
    obtain ⟨last, rest, ownRelated, none, rfl⟩ := List.forall₂_cons_left_iff.mp each
    obtain rfl := List.forall₂_nil_left_iff.mp none
    exact ⟨[], last, rfl, .nil, ownRelated⟩
  | cons first older inductionHypothesis =>
    obtain ⟨other, rest, firstRelated, tail, rfl⟩ := List.forall₂_cons_left_iff.mp each
    obtain ⟨before, last, rfl, olderRelated, ownRelated⟩ := inductionHypothesis tail
    exact ⟨other :: before, last, rfl, .cons firstRelated olderRelated, ownRelated⟩

theorem OwnLast.follows {origin : InitStateHandler} {handlers next : List InitStateHandler}
    (ownLast : OwnLast origin handlers) (each : List.Forall₂ Follows handlers next) :
    OwnLast origin next := by
  rcases ownLast with rfl | ⟨older, own, rfl, evolves, ends⟩
  · exact Or.inl (List.forall₂_nil_left_iff.mp each)
  · obtain ⟨before, last, rfl, olderEach, follows⟩ := forall₂_concat each
    refine Or.inr ⟨before, last, rfl, evolves.trans follows.1, ends.imp follows.2 ?_⟩
    rintro rfl
    exact List.forall₂_nil_left_iff.mp olderEach

/-- The check of the handlers removes those that are shut down. -/
theorem checkStateHandlersExist_fst (check : Nat → Reading) (handlers : List InitStateHandler)
    (xmpp : Xmpp) :
    (StateMachine.checkStateHandlersExist initVirtuals check handlers xmpp).1 =
      handlers.filter (·.state ≠ .shutDown) := by
  induction handlers generalizing check xmpp with
  | nil => rfl
  | cons handler rest inductionHypothesis =>
    rw [StateMachine.checkStateHandlersExist]
    by_cases down : handler.state = .shutDown
    · have gone : initVirtuals.isStillExist (check 0) handler xmpp =
          (false, { handler with reauthorizer := none }, xmpp) := if_pos down
      rw [gone, List.filter_cons_of_neg (by simp [down])]
      exact inductionHypothesis _ _
    · have stays : initVirtuals.isStillExist (check 0) handler xmpp = (true, handler, xmpp) :=
        isStillExist_of_not_shutDown xmpp down
      rw [stays, List.filter_cons_of_pos (by simp [down])]
      exact congrArg (handler :: ·) (inductionHypothesis _ _)

/-- The last handler is removed only when it is alone. -/
theorem OwnLast.checkStateHandlersExist {origin : InitStateHandler}
    {handlers : List InitStateHandler} (ownLast : OwnLast origin handlers) (check : Nat → Reading)
    (xmpp : Xmpp) :
    OwnLast origin
      (StateMachine.checkStateHandlersExist initVirtuals check handlers xmpp).1 := by
  rw [checkStateHandlersExist_fst]
  rcases ownLast with rfl | ⟨older, own, rfl, evolves, ends⟩
  · exact Or.inl rfl
  · rw [List.filter_append]
    by_cases down : own.state = .shutDown
    · obtain rfl := ends.resolve_left fun going => going.notShutDown down
      rw [List.filter_nil, List.filter_cons_of_neg (by simp [down]), List.filter_nil]
      exact Or.inl rfl
    · rw [List.filter_cons_of_pos (by simp [down]), List.filter_nil]
      refine Or.inr ⟨_, own, rfl, evolves, ends.imp_right ?_⟩
      rintro rfl
      rfl

/-- An event moves one handler on. A request to shut down is taken by the first handler. -/
theorem OwnLast.offer {origin : InitStateHandler} {handlers : List InitStateHandler}
    (ownLast : OwnLast origin handlers) (reading : Reading) (event : XmppEvent) (xmpp : Xmpp) :
    OwnLast origin (StateMachine.offer initVirtuals reading event handlers xmpp).2.1 := by
  rcases StateMachine.offer_cases refusesUnchanged_initVirtuals reading event handlers xmpp
    with ⟨-, refused⟩ | ⟨before, handler, after, next, later, rfl, refusing, accepts, offered⟩
  · rw [refused]
    exact ownLast
  have accepted : handler.isYourEvent reading event xmpp = (true, next, later) := accepts
  rw [offered]
  by_cases request : event.data = .shutdownRequest
  · obtain rfl : before = [] := by
      refine List.eq_nil_iff_forall_not_mem.mpr fun earlier member => ?_
      have takes := isYourEvent_shutdownRequest request reading earlier xmpp
      exact Bool.false_ne_true ((refusing earlier member).symm.trans takes)
    have moved : handler.Evolves (handler.isYourEvent reading event xmpp).2.1 :=
      .single (.isYourEvent reading handler event xmpp)
    rw [accepted] at moved
    obtain ⟨older, own, split, evolves, ends⟩ := ownLast.resolve_left (List.cons_ne_nil _ _)
    rcases List.cons_eq_append_iff.mp split with ⟨rfl, lone⟩ | ⟨others, rfl, rfl⟩
    · obtain ⟨rfl, rfl⟩ := List.cons.inj lone
      exact Or.inr ⟨[], next, rfl, evolves.trans moved, Or.inr rfl⟩
    · refine Or.inr ⟨next :: others, own, rfl, evolves, Or.inl ?_⟩
      exact ends.resolve_right (List.cons_ne_nil _ _)
  · have fromConnection : event.data.fromConnection = true := by
      cases kind : event.data with
      | shutdownRequest => exact absurd kind request
      | dropRequest callId =>
        have refused : (handler.isYourEvent reading event xmpp).1 = false := by
          unfold isYourEvent anyState
          rw [kind]
          cases handler.state <;> rfl
        rw [accepted] at refused
        cases refused
      | _ => rfl
    have follows := follows_isYourEvent reading handler fromConnection xmpp
    rw [accepted] at follows
    refine ownLast.follows (List.rel_append (forall₂_follows_refl before) ?_)
    exact .cons follows (forall₂_follows_refl after)

theorem OwnLast.signalEvent {origin : InitStateHandler} {handlers : List InitStateHandler}
    (ownLast : OwnLast origin handlers) (readings : Readings) (event : XmppEvent)
    (deleteEventData : Bool) (xmpp : Xmpp) :
    OwnLast origin
      (StateMachine.signalEvent initVirtuals readings event deleteEventData handlers
        xmpp).2.1 := by
  refine OwnLast.checkStateHandlersExist ?_ readings.check _
  have offered := ownLast.offer readings.offer event xmpp
  unfold StateMachine.handleEvent
  split
  case h_1 position next later outcome =>
    rw [outcome] at offered
    exact offered
  case h_2 next later outcome =>
    rw [outcome] at offered
    exact offered

theorem OwnLast.signalEvents {origin : InitStateHandler} (readings : Nat → Readings)
    (events : List XmppEvent) {handlers : List InitStateHandler}
    (ownLast : OwnLast origin handlers) (xmpp : Xmpp) :
    OwnLast origin
      (StateMachineBase.signalEvents initVirtuals readings events handlers xmpp).1 := by
  induction events generalizing readings handlers xmpp with
  | nil => exact ownLast
  | cons event rest inductionHypothesis =>
    exact inductionHypothesis _ (ownLast.signalEvent (readings 0) event true xmpp) _

theorem follows_pollUntilChange (poll : Nat → Reading) (handlers : List InitStateHandler)
    (xmpp : Xmpp) :
    List.Forall₂ Follows handlers
      (StateMachine.pollUntilChange initVirtuals poll handlers xmpp).1 := by
  induction handlers generalizing poll xmpp with
  | nil => exact .nil
  | cons handler rest inductionHypothesis =>
    have follows := follows_pollStateHandler (poll 0) handler xmpp
    rw [StateMachine.pollUntilChange]
    split
    case h_1 next later changed =>
      have polled : handler.pollStateHandler (poll 0) xmpp = (true, next, later) := changed
      rw [polled] at follows
      exact .cons follows (forall₂_follows_refl rest)
    case h_2 next later unchanged =>
      have polled : handler.pollStateHandler (poll 0) xmpp = (false, next, later) := unchanged
      rw [polled] at follows
      exact .cons follows (inductionHypothesis _ _)

end InitStateHandler

/-! ### Where the handler of the session is -/

namespace OnSipXmpp

open InitStateHandler

/-- The handler of the session waits in the queue, behind the older ones. -/
def OwnWaits (origin : InitStateHandler) (object : OnSipXmpp) : Prop :=
  object.initStateMachine.stateHandlers = [] ∧
    ∃ older, object.initStateMachine.handlerRequests = older ++ [origin]

/-- No handler waits, and the handler of the session is the last in the machine as long as it
exists. -/
def OwnRuns (origin : InitStateHandler) (object : OnSipXmpp) : Prop :=
  object.initStateMachine.handlerRequests = [] ∧
    OwnLast origin object.initStateMachine.stateHandlers

/-- The handler of the session stays where it is. -/
structure Keeps (object next : OnSipXmpp) : Prop where
  waits : ∀ origin, object.OwnWaits origin → next.OwnWaits origin
  runs : ∀ origin, object.OwnRuns origin → next.OwnRuns origin

theorem Keeps.of_machine {object next : OnSipXmpp}
    (handlers : next.initStateMachine.stateHandlers = object.initStateMachine.stateHandlers)
    (requests : next.initStateMachine.handlerRequests = object.initStateMachine.handlerRequests) :
    object.Keeps next := by
  refine ⟨fun origin => ?_, fun origin => ?_⟩
  · unfold OwnWaits
    rw [handlers, requests]
    exact id
  · unfold OwnRuns
    rw [handlers, requests]
    exact id

theorem Keeps.trans {first second third : OnSipXmpp} (left : first.Keeps second)
    (right : second.Keeps third) : first.Keeps third :=
  ⟨fun origin waits => right.waits origin (left.waits origin waits),
    fun origin runs => right.runs origin (left.runs origin runs)⟩

/-- The handlers in the machine change as one that is last may change. -/
theorem Keeps.of_handlers {object next : OnSipXmpp}
    (requests : next.initStateMachine.handlerRequests = object.initStateMachine.handlerRequests)
    (none : object.initStateMachine.stateHandlers = [] → next.initStateMachine.stateHandlers = [])
    (last : ∀ origin, OwnLast origin object.initStateMachine.stateHandlers →
      OwnLast origin next.initStateMachine.stateHandlers) : object.Keeps next := by
  refine ⟨fun origin waits => ⟨none waits.1, ?_⟩, fun origin runs => ⟨?_, last origin runs.2⟩⟩
  · rw [requests]
    exact waits.2
  · rw [requests]
    exact runs.1

theorem keeps_cleanup (object : OnSipXmpp) : object.Keeps object.cleanup :=
  .of_handlers rfl (fun _ => rfl) fun _ _ => Or.inl rfl

theorem keeps_signalEvent (initReadings callReadings : Readings) (event : XmppEvent)
    (object : OnSipXmpp) : object.Keeps (object.signalEvent initReadings callReadings event) := by
  refine .of_handlers ?_ ?_ fun origin ownLast => ?_
  · rw [initStateMachine_signalEvent]
    rfl
  · intro none
    rw [initStateMachine_signalEvent, StateMachineBase.signalEvent, none]
    rfl
  · rw [initStateMachine_signalEvent]
    exact ownLast.signalEvent initReadings event false object.xmpp

theorem keeps_arrive (arrival : Arrival) (object : OnSipXmpp) :
    object.Keeps (object.arrive arrival) := by
  cases arrival with
  | event initReadings callReadings event fromConnection =>
    exact object.keeps_signalEvent initReadings callReadings _
  | workerReply index event =>
    refine .of_handlers rfl ?_ fun origin ownLast => ownLast.follows ?_
    · intro none
      show object.initStateMachine.stateHandlers.modify index _ = []
      rw [none, List.modify_nil]
    · show List.Forall₂ Follows object.initStateMachine.stateHandlers
        (object.initStateMachine.stateHandlers.modify index _)
      induction object.initStateMachine.stateHandlers generalizing index with
      | nil =>
        rw [List.modify_nil]
        exact .nil
      | cons handler rest inductionHypothesis =>
        cases index with
        | zero =>
          have follows : handler.Follows (handler.handleIqID event) :=
            ⟨.single (.handleIqID event handler), fun going => going.of_state rfl⟩
          exact .cons follows (forall₂_follows_refl rest)
        | succ index =>
          rw [List.modify_succ_cons]
          exact .cons (Follows.refl handler) (inductionHypothesis index)
  | workerMessage event =>
    refine .of_handlers rfl ?_ fun origin ownLast => ownLast.follows ?_
    · intro none
      show object.initStateMachine.stateHandlers.map _ = []
      rw [none, List.map_nil]
    · refine List.forall₂_map_right_iff.mpr (List.forall₂_same.mpr fun handler _ => ?_)
      exact ⟨.single (.handleMessage event handler), fun going => going.of_state rfl⟩

/-- The first poll takes the handler of the session into the machine, and later polls leave it
there. -/
theorem ownRuns_pollInit {origin : InitStateHandler} {object : OnSipXmpp}
    (queues : object.LoginQueues) (going : origin.Going)
    (own : object.OwnWaits origin ∨ object.OwnRuns origin)
    (readings : StateMachineBase.PollReadings) : (object.pollInit readings).OwnRuns origin := by
  have new : ∀ handler ∈ object.initStateMachine.handlerRequests, handler.Going := by
    intro handler member
    obtain ⟨reading, rfl⟩ := queues.new handler member
    exact InitStateHandler.going_new reading
  have taken : object.initStateMachine.getRequests.1 = object.initStateMachine.handlerRequests ∧
      object.initStateMachine.getRequests.2.handlerRequests = [] :=
    getRequests_of_flagged queues.flagged
  have added : StateMachineBase.handleRequests initVirtuals readings.requests
      object.initStateMachine.getRequests.1 object.initStateMachine.stateHandlers object.xmpp =
        (object.drivers, object.xmpp) := by
    rw [taken.1]
    exact handleRequests_init _ new _ _
  have last : OwnLast origin object.drivers := by
    unfold drivers
    rcases own with ⟨none, older, waiting⟩ | ⟨none, ownLast⟩
    · rw [none, waiting]
      exact Or.inr ⟨older, origin, rfl, .refl, Or.inl going⟩
    · rw [none, List.append_nil]
      exact ownLast
  have left : (object.pollInit readings).initStateMachine = (object.initStateMachine.pollStateHandlers
      initVirtuals readings object.xmpp).1 := rfl
  unfold OwnRuns
  rw [left, StateMachineBase.pollStateHandlers_eq, added]
  refine ⟨?_, ?_⟩
  · dsimp only
    rw [StateMachineBase.handlerRequests_getEvents]
    exact taken.2
  · have signalled := OwnLast.signalEvents readings.events
      object.initStateMachine.getRequests.2.getEvents.1 last object.xmpp
    exact (signalled.follows (follows_pollUntilChange readings.last.poll _ _)).checkStateHandlersExist
      readings.last.check _

theorem keeps_call {object next : OnSipXmpp} {action : CallAction}
    (called : object.step (.call action) = some next) : object.Keeps next := by
  have machine := (sameLogin_call called).1.1
  exact .of_machine (congrArg StateMachineBase.stateHandlers machine)
    (congrArg StateMachineBase.handlerRequests machine)

end OnSipXmpp

/-! ### One step -/

open OnSipXmpp

/-- A step of `InitOnSipTapi` polls the login, or the handler of the session stays where it is. -/
theorem InitCall.keeps_or_polls {call next : InitCall} {action : InitAction}
    (stepped : call.step action = some next) :
    ((∀ readings reset, ¬ call.Polls action readings reset) ∧ call.object.Keeps next.object) ∨
      ∃ readings reset, call.Polls action readings reset ∧
        next.object = call.object.pollInit readings := by
  have other : (∀ time loopTime readings reset, action ≠ .checkTime time loopTime readings reset) →
      ∀ readings reset, ¬ call.Polls action readings reset := by
    rintro noCheck readings reset ⟨timeOut, now, loopTime, -, same, -⟩
    exact noCheck now loopTime readings reset same
  have stays : call.object.Keeps call.object := .of_machine rfl rfl
  cases action with
  | call action =>
    refine Or.inl ⟨other (by simp), ?_⟩
    rcases step_call stepped with rfl | ⟨object, called, ⟨-, rfl⟩ | ⟨timeOut, reset, -, -, rfl⟩⟩
    · exact stays
    · exact keeps_call called
    · exact (keeps_call called).trans (.of_machine rfl rfl)
  | arrive arrival =>
    refine Or.inl ⟨other (by simp), ?_⟩
    rcases step_arrive stepped with ⟨-, rfl⟩ | ⟨-, rfl⟩
    · exact stays
    · exact keeps_arrive arrival call.object
  | connected success =>
    refine Or.inl ⟨other (by simp), ?_⟩
    rcases step_connected stepped with ⟨-, rfl⟩ | ⟨-, rfl⟩ <;> exact stays
  | checkStop signalled reading =>
    refine Or.inl ⟨other (by simp), ?_⟩
    rcases step_checkStop stepped with ⟨-, rfl⟩ | ⟨-, rfl⟩ <;> exact stays
  | received error =>
    refine Or.inl ⟨other (by simp), ?_⟩
    rcases step_received stepped with ⟨-, rfl⟩ | ⟨timeOut, -, rfl⟩ <;> exact stays
  | checkTime time loopTime readings reset =>
    have inLoop : ∀ {timeOut}, call.control = .polling timeOut →
        ¬ (timeOut.isExpired time = false ∧
          call.object.tmrConnectLoop.isExpired loopTime = true) →
        ∀ readings' reset', ¬ call.Polls (.checkTime time loopTime readings reset) readings'
          reset' := by
      rintro timeOut control notDue readings' reset' ⟨otherTimeOut, now, then_, stands, same, due⟩
      obtain ⟨rfl, rfl, -, -⟩ := InitAction.checkTime.inj same
      obtain rfl := InitControl.polling.inj (control.symm.trans stands)
      exact notDue due
    rcases step_checkTime stepped with
      ⟨returned, rfl⟩ | ⟨timeOut, control, ⟨isOver, rfl⟩ | ⟨inTime, out, rfl⟩ | ⟨-, notOut, rfl⟩⟩
    · refine Or.inl ⟨?_, stays⟩
      rintro readings' reset' ⟨timeOut, now, then_, stands, -⟩
      unfold result at returned
      rw [stands] at returned
      cases returned
    · refine Or.inl ⟨inLoop control (by simp [isOver]), ?_⟩
      have machine := (loginView_polled call.object).1
      exact .of_machine (congrArg StateMachineBase.stateHandlers machine)
        (congrArg StateMachineBase.handlerRequests machine)
    · exact Or.inr ⟨readings, reset, ⟨timeOut, time, loopTime, control, rfl, inTime, out⟩, rfl⟩
    · exact Or.inl ⟨inLoop control (by simp [notOut]), stays⟩

namespace ConnectionThread

/-- The step begins another session: it calls `Start`. -/
def Begins (thread : ConnectionThread) : ThreadAction → Prop
  | .checkStop signalled _ =>
    thread.control = .looping ∧ thread.fConnected = false ∧ signalled = false
  | .waited signalled _ => thread.control = .retryWaiting ∧ signalled = false
  | _ => False

/-- `AsyncPolling` finds that the timer of its loop has run out. -/
def LoopDue (thread : ConnectionThread) : ThreadAction → Prop
  | .init action => ∃ first control readings reset, thread.control = .initializing first control ∧
      (InitCall.mk control thread.object).Polls action readings reset
  | .checkTime time loopTime _ _ => ∃ caller timeOut,
      thread.control = .polling caller (.polling timeOut) ∧ timeOut.isExpired time = false ∧
        thread.object.tmrConnectLoop.isExpired loopTime = true
  | _ => False

/-- The check of `AsyncPolling` outside of `InitOnSipTapi` -/
theorem keeps_or_polls_checkTime {thread next : ConnectionThread} {time loopTime : Reading}
    {readings : StateMachineBase.PollReadings} {reset : Reading}
    (stepped : thread.step (.checkTime time loopTime readings reset) = some next) :
    (¬ thread.LoopDue (.checkTime time loopTime readings reset) ∧
        thread.object.Keeps next.object) ∨
      (thread.LoopDue (.checkTime time loopTime readings reset) ∧
        ∃ readings, (thread.object.pollInit readings).Keeps next.object) := by
  rw [step.eq_def] at stepped
  dsimp only at stepped
  split at stepped
  case h_2 => cases stepped
  case h_1 caller timeOut control =>
    have inLoop : ¬ (timeOut.isExpired time = false ∧
          thread.object.tmrConnectLoop.isExpired loopTime = true) →
        ¬ thread.LoopDue (.checkTime time loopTime readings reset) := by
      rintro notDue ⟨otherCaller, otherTimeOut, stands, due⟩
      obtain ⟨-, inside⟩ := ThreadControl.polling.inj (control.symm.trans stands)
      obtain rfl := PollControl.polling.inj inside
      exact notDue due
    split_ifs at stepped with isOver out
    · obtain rfl := Option.some.inj stepped
      refine Or.inl ⟨inLoop (by simp [isOver]), ?_⟩
      unfold polled
      split
      · dsimp only
        split_ifs <;> exact .of_machine rfl rfl
      · exact .of_machine rfl rfl
    · obtain rfl := Option.some.inj stepped
      have inTime : timeOut.isExpired time = false := Bool.eq_false_iff.mpr isOver
      exact Or.inr ⟨⟨caller, timeOut, control, inTime, out⟩, readings, .of_machine rfl rfl⟩
    · obtain rfl := Option.some.inj stepped
      exact Or.inl ⟨inLoop fun due => out due.2, .of_machine rfl rfl⟩

/-- A step of the session polls the login, or its handler stays where it is. -/
theorem keeps_or_polls {thread next : ConnectionThread} {action : ThreadAction}
    (stepped : thread.step action = some next) (same : ¬ thread.Begins action) :
    (¬ thread.LoopDue action ∧ thread.object.Keeps next.object) ∨
      (thread.LoopDue action ∧
        ∃ readings, (thread.object.pollInit readings).Keeps next.object) := by
  have stays : thread.object.Keeps thread.object := .of_machine rfl rfl
  cases transition_of_step stepped with
  | @init first control action call stands inside =>
    have left : call.object.Keeps (thread.initialized first call).object := by
      unfold initialized
      split
      · exact .of_machine rfl rfl
      · dsimp only
        split_ifs
        · exact keeps_cleanup call.object
        · exact .of_machine rfl rfl
      · exact .of_machine rfl rfl
    rcases InitCall.keeps_or_polls inside with ⟨notDue, keeps⟩ | ⟨readings, reset, due, polled⟩
    · refine Or.inl ⟨?_, keeps.trans left⟩
      rintro ⟨_, other, readings, reset, control, due⟩
      obtain ⟨-, rfl⟩ := ThreadControl.initializing.inj (control.symm.trans stands)
      exact notDue readings reset due
    · refine Or.inr ⟨⟨first, control, readings, reset, stands, due⟩, readings, ?_⟩
      have polledObject : call.object = thread.object.pollInit readings := polled
      exact polledObject ▸ left
  | otherCall alive other called => exact Or.inl ⟨id, keeps_call called⟩
  | pollCall stands called =>
    refine Or.inl ⟨id, (keeps_call called).trans ?_⟩
    unfold afterCall
    split <;> exact .of_machine rfl rfl
  | arrive stands => exact Or.inl ⟨id, keeps_arrive _ thread.object⟩
  | stop stands reads =>
    refine Or.inl ⟨?_, ?_⟩
    · rcases reads with rfl | rfl <;> exact id
    · unfold disconnect
      split_ifs
      · exact .of_machine rfl rfl
      · exact keeps_cleanup thread.object
  | poll stands => rcases stands with ⟨-, -, rfl⟩ | ⟨-, rfl⟩ <;> exact Or.inl ⟨id, stays⟩
  | tryConnect stands =>
    rcases stands with ⟨looping, lost, rfl⟩ | ⟨waiting, rfl⟩
    · exact absurd ⟨looping, lost, rfl⟩ same
    · exact absurd ⟨waiting, rfl⟩ same
  | loop stands => exact Or.inl ⟨id, stays⟩
  | polled stands => exact keeps_or_polls_checkTime stepped
  | pollInit stands => exact keeps_or_polls_checkTime stepped
  | receive stands => exact keeps_or_polls_checkTime stepped
  | received stands => exact Or.inl ⟨id, stays⟩
  | @pollFailed caller timeOut error stands fails =>
    refine Or.inl ⟨id, ?_⟩
    cases caller with
    | connectionThread => exact stays
    | disconnect tmout => exact keeps_cleanup thread.object
  | processEvent stands => exact Or.inl ⟨id, stays⟩
  | updateState stands =>
    refine Or.inl ⟨id, ?_⟩
    unfold updateState
    dsimp only
    split_ifs
    · exact stays
    · exact keeps_cleanup thread.object
    · exact stays
  | cleanup stands => exact Or.inl ⟨id, keeps_cleanup thread.object⟩
  | pollShutdown stands => exact Or.inl ⟨id, stays⟩
  | disconnected stands => exact Or.inl ⟨id, stays⟩

/-! ### Whole sessions -/

/-- Once the handler of the session is in the machine, it stays there to the end of the session. -/
theorem ownRuns_of_run {origin : InitStateHandler} {actions : List ThreadAction}
    {thread last : ConnectionThread} (going : origin.Going)
    (reached : run step actions thread = some last)
    (same : Along step (fun thread action => ¬ thread.Begins action) actions thread)
    (serves : thread.Serves) (runs : thread.object.OwnRuns origin) :
    last.object.OwnRuns origin := by
  have preserved : ∀ (middle : ConnectionThread) action next, ¬ middle.Begins action →
      middle.step action = some next → middle.Serves ∧ middle.object.OwnRuns origin →
      next.Serves ∧ next.object.OwnRuns origin := by
    rintro middle action next same stepped ⟨serves, runs⟩
    refine ⟨serves.step stepped, ?_⟩
    rcases keeps_or_polls stepped same with ⟨-, keeps⟩ | ⟨-, readings, keeps⟩
    · exact keeps.runs origin runs
    · exact keeps.runs origin (ownRuns_pollInit serves.queues going (Or.inr runs) readings)
  exact (run_invariant_along preserved reached same ⟨serves, runs⟩).2

/-- Of the session so far, some step has found that the timer of the loop has run out. -/
def Looped (started : ConnectionThread) (actions : List ThreadAction) : Prop :=
  Happens step (fun thread action _ => thread.LoopDue action) actions started

/-- The handler of the session waits until the timer of the loop has run out, and from then on it is
in the machine. -/
theorem own_of_run {origin : InitStateHandler} {actions : List ThreadAction}
    {thread last : ConnectionThread} (going : origin.Going)
    (reached : run step actions thread = some last)
    (same : Along step (fun thread action => ¬ thread.Begins action) actions thread)
    (serves : thread.Serves) (waits : thread.object.OwnWaits origin) :
    (thread.Looped actions ∧ last.object.OwnRuns origin) ∨
      (¬ thread.Looped actions ∧ last.object.OwnWaits origin) := by
  induction actions generalizing thread with
  | nil =>
    obtain rfl : thread = last := Option.some.inj reached
    exact Or.inr ⟨id, waits⟩
  | cons action rest inductionHypothesis =>
    obtain ⟨next, stepped, remaining⟩ := run_cons_eq_some.mp reached
    have later := same.2 next stepped
    have nextServes := serves.step stepped
    rcases keeps_or_polls stepped same.1 with ⟨notDue, keeps⟩ | ⟨due, readings, keeps⟩
    · have unfolds : thread.Looped (action :: rest) ↔ next.Looped rest := by
        constructor
        · rintro ⟨other, also, now | happens⟩
          · exact absurd now notDue
          · obtain rfl : next = other := Option.some.inj (stepped.symm.trans also)
            exact happens
        · exact fun happens => ⟨next, stepped, Or.inr happens⟩
      rw [unfolds]
      exact inductionHypothesis remaining later nextServes (keeps.waits origin waits)
    · have runs := keeps.runs origin
        (ownRuns_pollInit serves.queues going (Or.inl waits) readings)
      exact Or.inl ⟨⟨next, stepped, Or.inl due⟩, ownRuns_of_run going remaining later nextServes runs⟩

end ConnectionThread

/-! ### The events of the connection -/

namespace OnSipXmpp

open InitStateHandler

/-- The event is accepted by the last of the handlers of the login, and this is what the given one
has become. -/
def ReachesOwn (origin : InitStateHandler) (reading : Reading) (event : XmppEvent)
    (object : OnSipXmpp) : Prop :=
  ∃ older own, object.drivers = older ++ [own] ∧ origin.Evolves own ∧
    (StateMachine.offer initVirtuals reading event object.initStateMachine.stateHandlers
      object.xmpp).1 = some older.length

/-- The last of the handlers of the login takes such an event, and no older one does. -/
def OwnTakes (connect : Bool) (object : OnSipXmpp) : Prop :=
  ∃ older own, object.drivers = older ++ [own] ∧ own.TakesConnection connect ∧
    ∀ earlier ∈ older, ¬ earlier.TakesConnection connect

theorem not_reachesOwn_of_ownWaits {origin : InitStateHandler} {object : OnSipXmpp}
    (waits : object.OwnWaits origin) (reading : Reading) (event : XmppEvent) :
    ¬ object.ReachesOwn origin reading event := by
  rintro ⟨older, own, -, -, accepted⟩
  rw [waits.1] at accepted
  cases accepted

/-- A handler in the machine takes the event just when it takes such events and is the first that
does. -/
theorem reachesOwn_iff_ownTakes {origin : InitStateHandler} {object : OnSipXmpp}
    (runs : object.OwnRuns origin) (reading : Reading) (connect : Bool) (context : Long) :
    object.ReachesOwn origin reading (connectionEvent connect context) ↔
      object.OwnTakes connect := by
  have drivers : object.drivers = object.initStateMachine.stateHandlers := by
    rw [OnSipXmpp.drivers, runs.1, List.append_nil]
  have takes := fun handler =>
    isYourEvent_connectionEvent connect context reading handler object.xmpp
  unfold ReachesOwn OwnTakes
  rw [drivers]
  rcases StateMachine.offer_cases refusesUnchanged_initVirtuals reading
      (connectionEvent connect context) object.initStateMachine.stateHandlers object.xmpp with
    ⟨refusing, refused⟩ | ⟨before, handler, after, next, later, split, refusing, accepts, offered⟩
  · rw [refused]
    refine iff_of_false (fun ⟨_, _, _, _, accepted⟩ => nomatch accepted) ?_
    rintro ⟨older, own, same, ownTakes, -⟩
    have refuses := refusing own (same ▸ List.mem_append_right _ (List.mem_singleton_self _))
    exact Bool.false_ne_true (refuses.symm.trans ((takes own).mpr ownTakes))
  · have refusesAll : ∀ earlier ∈ before, ¬ earlier.TakesConnection connect :=
      fun earlier member ownTakes =>
        Bool.false_ne_true ((refusing earlier member).symm.trans ((takes earlier).mpr ownTakes))
    have handlerTakes : handler.TakesConnection connect :=
      (takes handler).mp (congrArg Prod.fst accepts)
    rw [offered]
    constructor
    · rintro ⟨older, own, same, -, accepted⟩
      obtain ⟨rfl, tail⟩ := List.append_inj (split.symm.trans same) (Option.some.inj accepted)
      obtain ⟨rfl, -⟩ := List.cons.inj tail
      exact ⟨before, handler, same, handlerTakes, refusesAll⟩
    · rintro ⟨older, own, same, ownTakes, others⟩
      obtain ⟨ownOlder, last, ownSame, evolves, -⟩ :=
        runs.2.resolve_left fun none => by simp [none] at same
      obtain ⟨rfl, lastSame⟩ := List.append_inj' (same.symm.trans ownSame) rfl
      obtain ⟨rfl, -⟩ := List.cons.inj lastSame
      refine ⟨older, own, same, evolves, ?_⟩
      rcases List.append_eq_append_iff.mp (split.symm.trans same) with
        ⟨between, rfl, rest⟩ | ⟨between, rfl, rest⟩
      · cases between with
        | nil => rw [List.append_nil]
        | cons other between =>
          obtain ⟨rfl, -⟩ := List.cons.inj rest
          exact absurd handlerTakes
            (others _ (List.mem_append_right _ List.mem_cons_self))
      · cases between with
        | nil => rw [List.append_nil]
        | cons other between => simp at rest

end OnSipXmpp

namespace ConnectionThread

open OnSipXmpp InitStateHandler

/-- The thread is in `recv`. -/
def Receives (thread : ConnectionThread) : Prop :=
  (∃ first timeOut, thread.control = .initializing first (.receiving timeOut)) ∨
    ∃ caller timeOut, thread.control = .polling caller (.receiving timeOut)

/-- Wherever the thread stands, the event of a callback is accepted by the handler that `Start` has
created for the session, just when `AsyncPolling` has found since then that the timer of its loop has
run out, and the handler takes such an event while no older one does. -/
theorem reachesOwn_iff {reading : Reading} {loginInfo : LoginInfo}
    {before actions : List ThreadAction} {started thread : ConnectionThread} {first : Bool}
    {origin : InitStateHandler}
    (reached : run step before (new reading loginInfo) = some started)
    (starts : started.control = .initializing first .connecting)
    (created : origin ∈ started.object.initStateMachine.handlerRequests.getLast?)
    (session : run step actions started = some thread)
    (same : Along step (fun thread action => ¬ thread.Begins action) actions started)
    (taken : Reading) (connect : Bool) (context : Long) :
    thread.object.ReachesOwn origin taken (connectionEvent connect context) ↔
      started.Looped actions ∧ thread.object.OwnTakes connect := by
  have serves := serves_of_run reached
  have waits : started.object.OwnWaits origin := by
    obtain ⟨older, last⟩ := List.getLast?_eq_some_iff.mp created
    exact ⟨(serves.awaited first .connecting starts).2 rfl, older, last⟩
  have going : origin.Going := by
    obtain ⟨tick, rfl⟩ := serves.queues.new origin (List.mem_of_mem_getLast? created)
    exact InitStateHandler.going_new tick
  rcases own_of_run going session same serves waits with ⟨looped, runs⟩ | ⟨notLooped, stillWaits⟩
  · rw [reachesOwn_iff_ownTakes runs]
    exact ⟨fun ownTakes => ⟨looped, ownTakes⟩, And.right⟩
  · refine iff_of_false (not_reachesOwn_of_ownWaits stillWaits taken _) ?_
    exact fun both => notLooped both.1

theorem along_init (actions : List InitAction) (thread : ConnectionThread) :
    Along step (fun thread action => ¬ thread.Begins action) (actions.map .init) thread := by
  induction actions generalizing thread with
  | nil => trivial
  | cons action rest inductionHypothesis => exact ⟨id, fun next _ => inductionHypothesis next⟩

/-- The timer has run out at the first check, and the connect event reaches the new handler. -/
theorem reachesOwn_iff_polled :
    ∃ thread, run step ((Example.connectSteps.map Prod.snd).map .init)
        (new (Example.reading 0) Example.login) = some thread ∧
      thread.object.ReachesOwn (InitStateHandler.new (Example.reading 0)) (Example.reading 310)
        (connectionEvent true 0) := by
  have reached : run step [] (new (Example.reading 0) Example.login) = some _ := rfl
  have session : run step ((Example.connectSteps.map Prod.snd).map .init)
    (new (Example.reading 0) Example.login) = some _ := rfl
  refine ⟨_, session, (reachesOwn_iff reached rfl rfl session (along_init _ _) _ _ _).mpr ⟨?_, ?_⟩⟩
  · refine ⟨_, rfl, Or.inr ⟨_, rfl, Or.inr ⟨_, rfl, Or.inl ?_⟩⟩⟩
    exact ⟨true, _, _, _, rfl, _, _, _, rfl, rfl, rfl, rfl⟩
  · exact ⟨[], _, rfl, fun _ => rfl, fun _ absent => absurd absent List.not_mem_nil⟩

/-- A connection that is made at once: the timer of the loop has not run out when `recv` is called
for the first time, and no handler is there to take the connect event. -/
theorem not_reachesOwn_early :
    ¬ ∀ (reading : Reading) (loginInfo : LoginInfo) (before actions : List ThreadAction)
      (started thread : ConnectionThread) (first : Bool) (origin : InitStateHandler)
      (taken : Reading) (connect : Bool) (context : Long),
      run step before (new reading loginInfo) = some started →
      started.control = .initializing first .connecting →
      origin ∈ started.object.initStateMachine.handlerRequests.getLast? →
      run step actions started = some thread →
      Along step (fun thread action => ¬ thread.Begins action) actions started →
      thread.Receives →
      thread.object.ReachesOwn origin taken (connectionEvent connect context) := by
  intro claim
  have reached : run step [] (new (Example.reading 0) Example.login) = some _ := rfl
  have session : run step ([.connected true, .checkStop false (Example.reading 10),
      .checkTime (Example.reading 20) (Example.reading 20) (.still (Example.reading 20))
        (Example.reading 20)].map .init) (new (Example.reading 0) Example.login) = some _ := rfl
  obtain ⟨older, own, -, -, accepted⟩ := claim _ _ _ _ _ _ _ _ (Example.reading 30) true 0 reached
    rfl rfl session (along_init _ _) (Or.inl ⟨_, _, rfl⟩)
  cases accepted

end ConnectionThread

end JnTapi
