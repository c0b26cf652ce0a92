/-
This file proves when a call that the user has hung up is ended at the server.

A request to drop a call is accepted by the handler of the call, which sends one
`terminate` command for each of its branches and waits in `PreDropCall`. Branches
that it gains later are not terminated, and without a branch nothing is sent. Every
branch of the call is therefore terminated when each branch that comes after the
request is still there when the request is repeated.
-/

import JnTapi.Call.Notifications

namespace JnTapi

open Library

namespace CallHandler

/-! ### The commands of a drop request -/

/-- The commands that end these branches, each with its own context id -/
def terminations (branches : List OnSipCallStateData) (contextIds : List Long) : List Effect :=
  List.zipWith (fun branch contextId =>
    .terminate contextId branch.sipCallId branch.fromTag branch.toTag) branches contextIds

/-- The loop over the branches draws an id for each, sends its command and remembers the id. -/
theorem dropBranches_eq (branches : List OnSipCallStateData) (handler : CallHandler)
    (xmpp : Xmpp) :
    dropBranches branches handler xmpp =
      ({ handler with
          droppedContextIds := handler.droppedContextIds ++ xmpp.ids.nextIds branches.length },
        { xmpp with
          ids := ⟨xmpp.ids.draws + branches.length⟩
          effects := xmpp.effects ++ terminations branches (xmpp.ids.nextIds branches.length) }) := by
  induction branches generalizing handler xmpp with
  | nil => simp [dropBranches, terminations, UniqueId.nextIds]
  | cons branch rest inductionHypothesis =>
    rw [dropBranches]
    simp only [inductionHypothesis, List.length_cons, UniqueId.nextIds_succ]
    simp only [dropCall, Xmpp.getUniqueId, Xmpp.dropCall, Xmpp.emit, UniqueId.getNextId,
      terminations, List.zipWith_cons_cons, List.append_assoc, List.singleton_append,
      Nat.add_assoc, Nat.add_comm 1]

/-- Whatever its kind, a handler accepts the request to drop its call and no other. -/
theorem isYourEvent_dropRequest (reading : Reading) (handler : CallHandler) {event : XmppEvent}
    (xmpp : Xmpp) {callId : Long} (data : event.data = .dropRequest callId) :
    handler.isYourEvent reading event xmpp = handler.dropRequestOrReply reading event xmpp := by
  unfold isYourEvent
  cases handler.kind with
  | outgoing => simp only [outgoingIsYourEvent, data]
  | incoming => simp only [incomingIsYourEvent, data]
  | makeCall make => simp only [makeCallIsYourEvent, data]

/-- The handler of another call refuses the request. -/
theorem isYourEvent_dropRequest_other {reading : Reading} {handler : CallHandler}
    {event : XmppEvent} {xmpp : Xmpp} {callId : Long} (data : event.data = .dropRequest callId)
    (other : handler.callId ≠ callId) :
    (handler.isYourEvent reading event xmpp).1 = false := by
  rw [isYourEvent_dropRequest reading handler xmpp data]
  simp [dropRequestOrReply, checkDropRequestEvent, checkIqReplyDropRequest, data, other.symm]

/-- The handler of the call terminates each of its branches and waits. -/
theorem isYourEvent_dropRequest_own (reading : Reading) (handler : CallHandler)
    {event : XmppEvent} (xmpp : Xmpp) (data : event.data = .dropRequest handler.callId) :
    ∃ next nextXmpp later, handler.isYourEvent reading event xmpp = (true, next, nextXmpp) ∧
      next.state = .preDropCall ∧ next.callId = handler.callId ∧
      next.branches = handler.branches ∧
      next.droppedContextIds = handler.droppedContextIds ++
        xmpp.ids.nextIds handler.branches.branches.length ∧
      nextXmpp.ids.draws = xmpp.ids.draws + handler.branches.branches.length ∧
      nextXmpp.effects = xmpp.effects ++ terminations handler.branches.branches
        (xmpp.ids.nextIds handler.branches.branches.length) ++ later := by
  rw [isYourEvent_dropRequest reading handler xmpp data]
  have accepted : handler.checkDropRequestEvent event handler.callId xmpp =
      (true, dropBranches handler.branches.branches handler xmpp) := by
    simp [checkDropRequestEvent, data]
  rw [dropRequestOrReply, accepted, dropBranches_eq]
  simp only [assignNewState]
  cases handler.currentState.eventData with
  | none => exact ⟨_, _, _, rfl, rfl, rfl, rfl, rfl, rfl, rfl⟩
  | some held =>
    refine ⟨_, _, [.deleted held, .deleted event], rfl, rfl, rfl, rfl, rfl, rfl, ?_⟩
    simp [Xmpp.release, Xmpp.deleteEvent, Xmpp.emit]

/-! ### The existence check -/

/-- A handler that is not dropped stays in the machine, and at most its state changes. -/
theorem survives_check (check : Nat → Reading) {handlers : List CallHandler} (xmpp : Xmpp)
    {handler : CallHandler} (member : handler ∈ handlers) (alive : handler.state ≠ .dropped) :
    ∃ next ∈ (StateMachine.checkStateHandlersExist callVirtuals check handlers xmpp).1,
      next = handler ∨ ∃ reading, next = handler.timedOut reading := by
  have checked := checkStateHandlersExist_rule
    (fun done rest _ => handler ∈ rest ∨
      ∃ next ∈ done, next = handler ∨ ∃ reading, next = handler.timedOut reading)
    ?stays ?lapses ?removed check handlers xmpp (Or.inl member)
  · exact checked.resolve_left List.not_mem_nil
  case stays =>
    rintro done first rest object (waits | ⟨next, passed, which⟩) -
    · rcases List.mem_cons.mp waits with rfl | later
      · exact Or.inr ⟨handler, List.mem_append_right _ List.mem_cons_self, Or.inl rfl⟩
      · exact Or.inl later
    · exact Or.inr ⟨next, List.mem_append_left _ passed, which⟩
  case lapses =>
    rintro done first rest object reading (waits | ⟨next, passed, which⟩) - -
    · rcases List.mem_cons.mp waits with rfl | later
      · exact Or.inr ⟨_, List.mem_append_right _ List.mem_cons_self, Or.inr ⟨reading, rfl⟩⟩
      · exact Or.inl later
    · exact Or.inr ⟨next, List.mem_append_left _ passed, which⟩
  case removed =>
    rintro done first rest object (waits | passed) dropped
    · rcases List.mem_cons.mp waits with rfl | later
      · exact absurd dropped alive
      · exact Or.inl later
    · exact Or.inr passed

/-- The check only adds to what has been done. -/
theorem effects_check (check : Nat → Reading) (handlers : List CallHandler) (xmpp : Xmpp) :
    ∃ more, (StateMachine.checkStateHandlersExist callVirtuals check handlers xmpp).2.effects =
      xmpp.effects ++ more := by
  refine checkStateHandlersExist_rule
    (fun _ _ object => ∃ more, object.effects = xmpp.effects ++ more)
    (fun _ _ _ _ before _ => before) ?_ ?_ check handlers xmpp ⟨[], (List.append_nil _).symm⟩
  · rintro done handler rest object reading ⟨more, before⟩ alive lapsed
    obtain ⟨released, split, -⟩ := (Xmpp.quiet_release handler.currentState.eventData object).effects
    exact ⟨more ++ released, by rw [split, before, List.append_assoc]⟩
  · rintro done handler rest object ⟨more, before⟩ dropped
    obtain ⟨released, split, -⟩ := (Xmpp.quiet_release handler.currentState.eventData
      (handler.onStateChange .removedHandler object)).effects
    refine ⟨more ++ (.callStateChange handler.removal :: released), ?_⟩
    rw [split]
    show object.effects ++ [_] ++ released = _
    rw [before]
    simp [CallHandler.removal]

end CallHandler

namespace CallSystem

/-! ### One accepted request -/

/-- The call has a branch with this XMPP id. -/
def HasBranch (callId : Long) (id : TString) (system : CallSystem) : Prop :=
  ∃ handler ∈ system.stateHandlers, handler.callId = callId ∧ handler.branches.hasId id = true

/-- The step signals the request to drop the call while the handler of the call is in the
machine. -/
def DropAccepted (callId : Long) (system : CallSystem) (action : CallAction) : Prop :=
  (∃ readings event deleteEventData,
    system.signalOf action = some (readings, event, deleteEventData) ∧
      event.data = .dropRequest callId) ∧
  ∃ handler ∈ system.stateHandlers, handler.callId = callId

/-- The step terminates the branches of the call, each with a context id of its own that has not
been used before, and the handler of the call remembers these ids. The commands come before
anything else that the step does. -/
def HungUp (callId : Long) (before after : CallSystem) : Prop :=
  ∃ handler ∈ before.stateHandlers, handler.callId = callId ∧
  ∃ contextIds : List Long, contextIds.length = handler.branches.branches.length ∧
    contextIds.Nodup ∧ (∀ contextId ∈ contextIds, ¬ before.xmpp.ids.Drawn contextId) ∧
    (∃ later, after.xmpp.effects = before.xmpp.effects ++
      CallHandler.terminations handler.branches.branches contextIds ++ later) ∧
    ∃ next ∈ after.stateHandlers, next.callId = callId ∧
      next.droppedContextIds = handler.droppedContextIds ++ contextIds

/-- The observers have not been told that the call is dropped. -/
def NotReportedDropped (callId : Long) (system : CallSystem) : Prop :=
  ∀ notification ∈ callNotificationsOf callId system.xmpp.effects,
    notification.reason ≠ .removedHandler ∧
      (notification.reason = .isYourEventHandled → notification.state ≠ .dropped)

/-- In a list of handlers with distinct call ids, the others have other ids. -/
theorem Coherent.other_callId {since : Nat} {system : CallSystem}
    (coherent : Coherent since system) {before after : List CallHandler} {handler : CallHandler}
    (split : system.stateHandlers = before ++ handler :: after) :
    ∀ other ∈ before ++ after, other.callId ≠ handler.callId := by
  have distinct : ((before ++ handler :: after).map fun handler =>
      callScheme.key (callScheme.view handler)).Nodup := by
    rw [← split]
    exact coherent.ledger.consistent.distinct
  exact key_ne_of_distinct distinct

/-- A request that is signalled while the handler of the call is in the machine hangs the call
up. -/
theorem hungUp_of_accepted {since : Nat} {system next : CallSystem} {action : CallAction}
    {callId : Long} (coherent : Coherent since system)
    (accepted : DropAccepted callId system action) (stepped : system.step action = some next)
    (bound : next.xmpp.ids.draws < 2 ^ 32) : HungUp callId system next := by
  obtain ⟨⟨readings, event, deleteEventData, signals, data⟩, handler, member, rfl⟩ := accepted
  obtain ⟨before, after, split⟩ := List.mem_iff_append.mp member
  have refusing : ∀ earlier ∈ before,
      (earlier.isYourEvent readings.offer event system.xmpp).1 = false := by
    intro earlier inside
    exact CallHandler.isYourEvent_dropRequest_other data
      (coherent.other_callId split earlier (List.mem_append_left _ inside))
  obtain ⟨dropping, object, later, accepts, state, sameId, -, contexts, draws, effects⟩ :=
    CallHandler.isYourEvent_dropRequest_own readings.offer handler system.xmpp data
  have signalled : StateMachine.signalEvent callVirtuals readings event deleteEventData
      (before ++ handler :: after) system.xmpp = _ :=
    StateMachine.signalEvent_accepted CallHandler.refusesUnchanged_callVirtuals deleteEventData
      refusing accepts
  have left := step_signalled stepped signals
  rw [split, signalled] at left
  obtain ⟨handlers, xmpp⟩ := Prod.mk.injEq .. ▸ left
  obtain ⟨more, grown⟩ := CallHandler.effects_check readings.check
    (before ++ dropping :: after) (dropping.onStateChange .isYourEventHandled object)
  have alive : dropping.state ≠ .dropped := by
    rw [state]
    decide
  have present : dropping ∈ before ++ dropping :: after :=
    List.mem_append_right before List.mem_cons_self
  obtain ⟨survivor, remains, which⟩ := CallHandler.survives_check readings.check
    (dropping.onStateChange .isYourEventHandled object) present alive
  have small : system.xmpp.ids.draws + handler.branches.branches.length < 2 ^ 32 := by
    rw [xmpp, CallHandler.ids_checkStateHandlersExist] at bound
    rw [← draws]
    exact bound
  refine ⟨handler, member, rfl, _, UniqueId.length_nextIds _ _, UniqueId.nodup_nextIds small,
    fun contextId drawn => UniqueId.not_drawn_of_mem_nextIds drawn small, ?_, survivor, ?_, ?_⟩
  · refine ⟨later ++ (.callStateChange ⟨.isYourEventHandled, dropping.state,
      dropping.stateData⟩ :: more), ?_⟩
    rw [xmpp]
    refine grown.trans ?_
    show object.effects ++ [_] ++ more = _
    rw [effects]
    simp only [List.append_assoc, List.singleton_append]
  · rw [handlers]
    exact remains
  · rcases which with rfl | ⟨reading, rfl⟩
    · exact ⟨sameId, contexts⟩
    · exact ⟨sameId, contexts⟩

/-! ### What has been reported -/

/-- Every reported event that dropped its call has been followed by the report of the removal. -/
def DropsRemoved (system : CallSystem) : Prop :=
  ∀ notification ∈ callNotifications system.xmpp.effects,
    notification.reason = .isYourEventHandled → notification.state = .dropped →
      ∃ removal ∈ callNotifications system.xmpp.effects, removal.reason = .removedHandler ∧
        removal.stateData = notification.stateData

theorem DropsRemoved.step {system next : CallSystem} {action : CallAction}
    (stepped : system.step action = some next) (removed : system.DropsRemoved) :
    next.DropsRemoved := by
  obtain ⟨new, grown, followed⟩ := dropFollowed_step stepped
  unfold DropsRemoved
  rw [grown]
  intro notification member handled dropped
  rcases List.mem_append.mp member with earlier | fresh
  · obtain ⟨removal, reported, same⟩ := removed notification earlier handled dropped
    exact ⟨removal, List.mem_append_left _ reported, same⟩
  · obtain ⟨first, rest, split⟩ := List.mem_iff_append.mp fresh
    obtain ⟨removal, reported, reason, -, same⟩ := followed first notification rest split handled
      dropped
    refine ⟨removal, List.mem_append_right _ ?_, reason, same⟩
    rw [split]
    exact List.mem_append_right _ (List.mem_cons_of_mem _ reported)

theorem dropsRemoved_of_run {login : LoginInfo} {actions : List CallAction} {system : CallSystem}
    (reached : run CallSystem.step actions (CallSystem.new login) = some system) :
    system.DropsRemoved :=
  run_invariant (fun _ _ _ stepped removed => DropsRemoved.step stepped removed) reached
    (fun _ member => absurd member List.not_mem_nil)

/-- While its handler is in the machine, a call has not been reported to be dropped. -/
theorem notReportedDropped {since : Nat} {system : CallSystem} {callId : Long}
    (coherent : Coherent since system) (removed : system.DropsRemoved)
    (live : ∃ handler ∈ system.stateHandlers, handler.callId = callId) :
    NotReportedDropped callId system := by
  obtain ⟨handler, member, rfl⟩ := live
  obtain ⟨first, middle, split, opens, between⟩ := coherent.ledger.announced member
  have noRemoval : ∀ notification ∈ callNotificationsOf handler.callId system.xmpp.effects,
      notification.reason ≠ .removedHandler := by
    intro notification inside
    rw [split] at inside
    rcases List.mem_cons.mp inside with rfl | later
    · rcases opens with created | added
      · simp [created]
      · simp [added]
    · simp [between notification later]
  intro notification inside
  refine ⟨noRemoval notification inside, fun handled dropped => ?_⟩
  obtain ⟨reported, same⟩ := List.mem_filter.mp inside
  obtain ⟨removal, reportedRemoval, reason, sameData⟩ :=
    removed notification reported handled dropped
  refine noRemoval removal (List.mem_filter.mpr ⟨reportedRemoval, ?_⟩) reason
  rw [sameData]
  exact same

/-! ### Whole runs -/

/-- The branch is terminated in the run, before the call is reported to be dropped. -/
def Terminated (callId : Long) (id : TString) : List CallAction → CallSystem → Prop :=
  Happens CallSystem.step fun before _ after =>
    HasBranch callId id before ∧ HungUp callId before after ∧ NotReportedDropped callId before

/-- Every branch that the call has at first or in the course of the run is terminated, and there
is one. -/
def HangUpComplete (callId : Long) (actions : List CallAction) (system : CallSystem) : Prop :=
  (∀ id, Sometimes CallSystem.step (HasBranch callId id) actions system →
    Terminated callId id actions system) ∧
  ∃ id, Terminated callId id actions system

/-- Every branch that the call gains in the run is still there when a later request to drop the
call is accepted. -/
def GainsDropped (callId : Long) (actions : List CallAction) (system : CallSystem) : Prop :=
  ∀ id, Responds CallSystem.step
    (fun before after => ¬ HasBranch callId id before ∧ HasBranch callId id after)
    (fun before action _ => DropAccepted callId before action ∧ HasBranch callId id before)
    actions system

end CallSystem

open CallSystem in
/-- When a request to drop a call has been accepted, every branch that the call has then or gains
later is terminated, and at least one is, if the call has a branch at some time and each branch
that it gains meets a further accepted request. -/
theorem hangUpComplete {login : LoginInfo} {first rest : List CallAction} {action : CallAction}
    {callId : Long} {before after last : CallSystem}
    (reached : run CallSystem.step first (CallSystem.new login) = some before)
    (accepted : DropAccepted callId before action) (stepped : before.step action = some after)
    (remaining : run CallSystem.step rest after = some last)
    (bound : last.xmpp.ids.draws < 2 ^ 32 - 1)
    (some_ : ∃ id, Sometimes CallSystem.step (HasBranch callId id) (action :: rest) before)
    (gains : GainsDropped callId (action :: rest) before) :
    HangUpComplete callId (action :: rest) before := by
  -- A request that is accepted at any time of the run hangs the call up.
  have hangs : ∀ id, Happens CallSystem.step
      (fun before action _ => DropAccepted callId before action ∧ HasBranch callId id before)
      (action :: rest) before → Terminated callId id (action :: rest) before := by
    intro id happens
    obtain ⟨start, dropping, finish, earlier, later, split, toEarlier, drops, again, has⟩ :=
      happens_iff.mp happens
    have whole : run CallSystem.step (action :: rest) before = some last :=
      run_cons_eq_some.mpr ⟨after, stepped, remaining⟩
    rw [split] at whole
    obtain ⟨middle, next, toMiddle, dropped, toLast⟩ := run_split.mp whole
    obtain rfl : earlier = middle := Option.some.inj (toEarlier.symm.trans toMiddle)
    obtain rfl : later = next := Option.some.inj (drops.symm.trans dropped)
    have fromStart : run CallSystem.step (first ++ start) (CallSystem.new login) = some earlier :=
      run_append_eq_some.mpr ⟨before, reached, toEarlier⟩
    have laterBound := draws_run toLast
    have earlierBound := draws_step drops
    obtain ⟨since, coherent⟩ := exists_coherent_of_run fromStart (by omega)
    refine happens_iff.mpr ⟨start, dropping, finish, earlier, later, split, toEarlier, drops, has,
      hungUp_of_accepted coherent again drops (by omega), ?_⟩
    exact notReportedDropped coherent (dropsRemoved_of_run fromStart) again.2
  have terminated : ∀ id, Sometimes CallSystem.step (HasBranch callId id) (action :: rest) before →
      Terminated callId id (action :: rest) before := by
    intro id sometime
    rcases sometime.answered (gains id) with now | happens
    · exact hangs id ⟨after, stepped, Or.inl ⟨accepted, now⟩⟩
    · exact hangs id happens
  obtain ⟨id, sometime⟩ := some_
  exact ⟨terminated, id, terminated id sometime⟩

/-- The user hangs up a call that the program makes before the own phone rings. -/
def Example.dropBeforeRing : List CallAction :=
  [.drawCallId "555".toList, .addCallHandler 0 (Example.reading 0)] ++ Example.pollOneRequest 0 ++
    [.dropCallAsync 1, .testRequests, .testEvents, .takeEvents]

/-- The phone rings after that, until it gives up. -/
def Example.ringAndGiveUp : List CallAction :=
  [.pollHandlers (Example.readings 5),
    .signalEvent (Example.readings 6) (Example.firstLeg "x" .requested) false,
    .signalEvent (Example.readings 7) (Example.retract "x") false]

/-- The call is removed as a dropped one, and nothing has been terminated. -/
theorem hangUpComplete_dropBeforeRing :
    ¬ ∀ login first action rest callId (before after last : CallSystem),
      run CallSystem.step first (CallSystem.new login) = some before →
      CallSystem.DropAccepted callId before action → before.step action = some after →
      run CallSystem.step rest after = some last →
      (∀ handler ∈ last.stateHandlers, handler.callId ≠ callId) →
        CallSystem.HangUpComplete callId (action :: rest) before := by
  intro complete
  have reached : run CallSystem.step Example.dropBeforeRing (CallSystem.new Example.login) =
    some _ := rfl
  obtain ⟨-, id, next, stepped, ⟨⟨handler, member, -, has⟩, -⟩ | later⟩ :=
    complete Example.login Example.dropBeforeRing (.signalNext (Example.readings 5))
      Example.ringAndGiveUp 1 _ _ _ reached ⟨⟨_, _, _, rfl, rfl⟩, _, List.mem_cons_self, rfl⟩ rfl
      rfl (by decide)
  · obtain rfl := List.mem_singleton.mp member
    cases has
  · obtain rfl := Option.some.inj stepped
    obtain ⟨next, stepped, ⟨⟨handler, member, -, has⟩, -⟩ | later⟩ := later
    · obtain rfl := List.mem_singleton.mp member
      cases has
    · obtain rfl := Option.some.inj stepped
      obtain ⟨next, stepped, ⟨⟨handler, member, -, has⟩, -⟩ | later⟩ := later
      · obtain rfl := List.mem_singleton.mp member
        cases has
      · obtain rfl := Option.some.inj stepped
        obtain ⟨next, stepped, ⟨-, ⟨-, -, -, -, -, -, -, -, remaining, member, -⟩, -⟩ | none⟩ :=
          later
        · obtain rfl := Option.some.inj stepped
          exact absurd member List.not_mem_nil
        · exact none

/-- The user hangs up again while the phone rings. -/
def Example.ringAndDropAgain : List CallAction :=
  [.pollHandlers (Example.readings 5),
    .signalEvent (Example.readings 6) (Example.firstLeg "x" .requested) false,
    .dropCallAsync 1, .testRequests, .testEvents, .takeEvents, .signalNext (Example.readings 7),
    .pollHandlers (Example.readings 7)]

/-- The branches of a call, as a handler shows them -/
def Example.shownBranches (system : CallSystem) : List (Long × CallBranches) :=
  system.stateHandlers.map fun handler => (handler.callId, handler.branches)

/-- What the handlers show of their branches tells which ones the call has. -/
theorem Example.hasBranch_congr {callId : Long} {id : TString} {before after : CallSystem}
    (same : shownBranches before = shownBranches after) :
    before.HasBranch callId id ↔ after.HasBranch callId id := by
  have shown : ∀ system : CallSystem, system.HasBranch callId id ↔
      ∃ branches ∈ shownBranches system, branches.1 = callId ∧ branches.2.hasId id = true := by
    intro system
    simp only [CallSystem.HasBranch, shownBranches, List.mem_map, exists_exists_and_eq_and]
  rw [shown, same, ← shown]

/-- The call after the first request, and all that happens from then on -/
def Example.droppedBeforeRing : CallSystem :=
  (run CallSystem.step Example.dropBeforeRing (CallSystem.new Example.login)).getD
    (CallSystem.new Example.login)

def Example.dropTwice : List CallAction :=
  .signalNext (Example.readings 5) :: Example.ringAndDropAgain

/-- The branch that comes after the first request meets the second. -/
theorem Example.gainsDropped_dropTwice :
    CallSystem.GainsDropped 1 Example.dropTwice Example.droppedBeforeRing := by
  -- Only the ringing begins a branch.
  have same : ∀ count < 9, count ≠ 2 →
      (run CallSystem.step (dropTwice.take count) droppedBeforeRing).map shownBranches =
        (run CallSystem.step (dropTwice.take (count + 1)) droppedBeforeRing).map shownBranches := by
    decide +kernel
  intro id
  refine responds_of_take fun count less before after toBefore toAfter gains => ?_
  by_cases rings : count = 2
  · subst rings
    obtain ⟨last, whole⟩ : ∃ last, run CallSystem.step
        (dropTwice.take 7 ++ .signalNext (readings 7) :: [.pollHandlers (readings 7)])
        droppedBeforeRing = some last := Option.isSome_iff_exists.mp (by decide +kernel)
    obtain ⟨second, third, toSecond, drops, -⟩ := run_split.mp whole
    have signals : ((run CallSystem.step (dropTwice.take 7) droppedBeforeRing).bind fun system =>
        (system.signalOf (.signalNext (readings 7))).map fun signal => signal.2.1.data) =
          some (.dropRequest 1) := by decide +kernel
    have shown : (run CallSystem.step (dropTwice.take 3) droppedBeforeRing).map shownBranches =
        (run CallSystem.step (dropTwice.take 7) droppedBeforeRing).map shownBranches := by
      decide +kernel
    rw [toSecond] at signals
    rw [toAfter, toSecond] at shown
    obtain ⟨⟨readings, event, delete⟩, signal, data⟩ := Option.map_eq_some_iff.mp signals
    obtain ⟨handler, member, own, has⟩ := (hasBranch_congr (Option.some.inj shown)).mp gains.2
    obtain ⟨ringing, toRinging, fromRinging⟩ := run_append_eq_some.mp
      (show run CallSystem.step (dropTwice.take 3 ++
        [.dropCallAsync 1, .testRequests, .testEvents, .takeEvents]) droppedBeforeRing = some second
        from toSecond)
    obtain rfl : after = ringing := Option.some.inj (toAfter.symm.trans toRinging)
    exact happens_iff.mpr ⟨_, _, _, second, third, rfl, fromRinging, drops,
      ⟨⟨readings, event, delete, signal, data⟩, handler, member, own⟩,
        handler, member, own, has⟩
  · have shown := same count less rings
    rw [toBefore, toAfter] at shown
    exact absurd ((hasBranch_congr (Option.some.inj shown)).mpr gains.2) gains.1

/-- The branch that comes after the first request is terminated by the second. -/
theorem hangUpComplete_dropTwice :
    run CallSystem.step Example.dropBeforeRing (CallSystem.new Example.login) =
        some Example.droppedBeforeRing ∧
      CallSystem.HangUpComplete 1 Example.dropTwice Example.droppedBeforeRing := by
  have reached : run CallSystem.step Example.dropBeforeRing (CallSystem.new Example.login) =
    some Example.droppedBeforeRing := by decide +kernel
  have signals : (Example.droppedBeforeRing.signalOf (.signalNext (Example.readings 5))).map
      (fun signal => signal.2.1.data) = some (.dropRequest 1) := by decide +kernel
  have small : (run CallSystem.step Example.dropTwice Example.droppedBeforeRing).all
      (fun last => last.xmpp.ids.draws < 2 ^ 32 - 1) = true := by decide +kernel
  obtain ⟨last, whole⟩ : ∃ last, run CallSystem.step Example.dropTwice Example.droppedBeforeRing =
    some last := Option.isSome_iff_exists.mp (by decide +kernel)
  obtain ⟨after, stepped, remaining⟩ := run_cons_eq_some.mp whole
  obtain ⟨⟨readings, event, delete⟩, signal, data⟩ := Option.map_eq_some_iff.mp signals
  rw [whole] at small
  exact ⟨reached, hangUpComplete reached
    ⟨⟨readings, event, delete, signal, data⟩, by decide +kernel⟩ stepped remaining
    (of_decide_eq_true small)
    ⟨"x".toList, Or.inr ⟨_, rfl, Or.inr ⟨_, rfl, Or.inr ⟨_, rfl, Or.inl
      ⟨_, List.mem_cons_self, rfl, by decide⟩⟩⟩⟩⟩ Example.gainsDropped_dropTwice⟩

end JnTapi
