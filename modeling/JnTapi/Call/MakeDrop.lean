/-
This file proves that a call which is made and then hung up is found by the
request to drop it.

`MakeCallAsync` and `DropCallAsync` fill two queues, which `PollStateHandlers`
empties one after the other. A handler and a request that are queued between the
two are taken in the wrong order: the request is signalled while the handler still
waits for the next poll. When no poll takes the request for a call whose handler
still waits, every request is signalled after its handler has been added.
-/

import JnTapi.Call.HangUp

namespace JnTapi

open Library

namespace CallSystem

/-- Requests to drop the call come from `DropCallAsync` only, after `MakeCallAsync` has returned
the id of the call. -/
def DroppedAfterMade (callId : Long) (system : CallSystem) : CallAction → Prop
  | .dropCallAsync other => other = callId → callId ∈ system.returned
  | .addEvent event => event.data ≠ .dropRequest callId
  | .signalEvent _ event _ => event.data ≠ .dropRequest callId
  | _ => True

/-- A poll does not take a request to drop the call while its handler waits for the next poll. -/
def NoRace (callId : Long) (system : CallSystem) : CallAction → Prop
  | .takeEvents => (∃ event ∈ system.machine.events, event.data = .dropRequest callId) →
    ∀ request ∈ system.machine.handlerRequests, request.callId ≠ callId
  | _ => True

instance (callId : Long) (system : CallSystem) (action : CallAction) :
    Decidable (DroppedAfterMade callId system action) :=
  match action with
  | .dropCallAsync other => inferInstanceAs (Decidable (other = callId → _))
  | .addEvent event | .signalEvent _ event _ => inferInstanceAs (Decidable (event.data ≠ _))
  | .drawId | .drawCallId _ | .addCallHandler _ _ | .testRequests | .takeRequests
  | .handleRequest _ | .testEvents | .takeEvents | .signalNext _ | .pollHandlers _
  | .removeStateHandlers => instDecidableTrue

instance (callId : Long) (system : CallSystem) (action : CallAction) :
    Decidable (NoRace callId system action) :=
  match action with
  | .takeEvents => inferInstanceAs (Decidable (_ → ∀ request ∈ system.machine.handlerRequests, _))
  | .drawId | .drawCallId _ | .addCallHandler _ _ | .dropCallAsync _ | .addEvent _
  | .signalEvent _ _ _ | .testRequests | .takeRequests | .handleRequest _ | .testEvents
  | .signalNext _ | .pollHandlers _ | .removeStateHandlers => instDecidableTrue

/-- What every run keeps in which requests come after their calls and do not overtake the
handlers: the ids that have been returned are no longer to be returned, and wait or have been
reported; the requests in the queue are for such an id, and those that have been taken are for
one whose handler does not wait. -/
structure Ordered (callId : Long) (system : CallSystem) : Prop where
  returned : ∀ id ∈ system.returned, system.xmpp.ids.Drawn id ∧ id ∉ system.making.map Prod.fst
  added : ∀ id ∈ system.returned, id ∈ system.waiting ∨
    ∃ report ∈ callLog system.xmpp, callScheme.key report.2 = id
  queued : ∀ event ∈ system.machine.events, event.data = .dropRequest callId →
    callId ∈ system.returned
  taken : ∀ event ∈ system.polling.pendingEvents, event.data = .dropRequest callId →
    callId ∈ system.returned ∧
      ∀ request ∈ system.machine.handlerRequests, request.callId ≠ callId

theorem Ordered.new (callId : Long) (login : LoginInfo) :
    Ordered callId (CallSystem.new login) where
  returned := fun _ member => absurd member List.not_mem_nil
  added := fun _ member => absurd member List.not_mem_nil
  queued := fun _ member => absurd member List.not_mem_nil
  taken := fun _ member => absurd member List.not_mem_nil

theorem callLog_step {system next : CallSystem} {action : CallAction}
    (stepped : system.step action = some next) :
    ∃ more, callLog next.xmpp = callLog system.xmpp ++ more := by
  obtain ⟨new, grown, -⟩ := dropFollowed_step stepped
  exact ⟨new.map CallNotification.report, by rw [callLog, grown, List.map_append]; rfl⟩

/-- A step keeps the order when it makes no call and queues nothing, and the handlers that no
longer wait have been reported. -/
theorem Ordered.frame {callId : Long} {system next : CallSystem} {action : CallAction}
    (ordered : Ordered callId system) (stepped : system.step action = some next)
    (sameReturned : next.returned = system.returned) (sameMaking : next.making = system.making)
    (waits : ∀ id ∈ system.waiting, id ∈ next.waiting ∨
      ∃ report ∈ callLog next.xmpp, callScheme.key report.2 = id)
    (events : next.machine.events ⊆ system.machine.events)
    (pending : next.polling.pendingEvents ⊆ system.polling.pendingEvents)
    (requests : next.machine.handlerRequests ⊆ system.machine.handlerRequests) :
    Ordered callId next where
  returned := by
    rw [sameReturned, sameMaking]
    intro id member
    exact ⟨(ordered.returned id member).1.mono (draws_step stepped), (ordered.returned id member).2⟩
  added := by
    obtain ⟨more, grown⟩ := callLog_step stepped
    rw [sameReturned]
    intro id member
    rcases ordered.added id member with waiting | ⟨report, reported, same⟩
    · exact waits id waiting
    · refine Or.inr ⟨report, ?_, same⟩
      rw [grown]
      exact List.mem_append_left _ reported
  queued := by
    rw [sameReturned]
    exact fun event member => ordered.queued event (events member)
  taken := by
    rw [sameReturned]
    intro event member data
    obtain ⟨returned, none⟩ := ordered.taken event (pending member) data
    exact ⟨returned, fun request waiting => none request (requests waiting)⟩

/-- `MakeCallAsync` adds the handler and returns the id: the handler waits, and the call is no longer
being made. -/
theorem Ordered.addCallHandler {since : Nat} {callId : Long} {system next : CallSystem}
    {index : Nat} {reading : Reading} (ordered : Ordered callId system)
    (stepped : system.step (.addCallHandler index reading) = some next)
    (coherent : Coherent since system) : Ordered callId next := by
  obtain ⟨newId, phoneNumber, found, rfl⟩ := step_addCallHandler.mp stepped
  obtain ⟨inside, atIndex⟩ := List.getElem?_eq_some_iff.mp found
  have makingId : newId ∈ system.making.map Prod.fst :=
    List.mem_map.mpr ⟨_, List.mem_of_getElem atIndex, rfl⟩
  have distinct : (system.making.map Prod.fst).Nodup :=
    coherent.ledger.waitingDistinct.of_append_right
  have split := (List.getElem_cons_eraseIdx_perm inside).map Prod.fst
  rw [atIndex] at split
  have apart := List.nodup_cons.mp (split.nodup_iff.mpr distinct)
  refine ⟨fun id member => ?_, fun id member => ?_, fun event member data => ?_,
    fun event member data => ?_⟩
  · rcases List.mem_append.mp member with earlier | last
    · obtain ⟨drawn, unmade⟩ := ordered.returned id earlier
      exact ⟨drawn, fun making => unmade
        ((List.eraseIdx_sublist _ _).map Prod.fst |>.subset making)⟩
    · rw [List.mem_singleton.mp last]
      exact ⟨coherent.ledger.waitingDrawn newId (List.mem_append_right _ makingId), apart.1⟩
  · have waits : ∀ other, other ∈ system.waiting → other ∈ waiting { system with
        machine := system.machine.addStateHandler
          (CallHandler.newMakeCall reading phoneNumber newId)
        making := system.making.eraseIdx index
        returned := system.returned ++ [newId] } := by
      intro other waits
      simp only [waiting, StateMachineBase.addStateHandler, ← List.append_assoc,
        List.map_append, List.map_singleton, List.mem_append] at waits ⊢
      rcases waits with queue | making
      · exact Or.inl (Or.inl queue)
      · rcases List.mem_cons.mp (split.mem_iff.mpr making) with rfl | rest
        · exact Or.inl (Or.inr List.mem_cons_self)
        · exact Or.inr rest
    rcases List.mem_append.mp member with earlier | last
    · rcases ordered.added id earlier with queue | reported
      · exact Or.inl (waits id queue)
      · exact Or.inr reported
    · rw [List.mem_singleton.mp last]
      exact Or.inl (waits newId (List.mem_append_right _ makingId))
  · exact List.mem_append_left _ (ordered.queued event member data)
  · obtain ⟨returned, none⟩ := ordered.taken event member data
    refine ⟨List.mem_append_left _ returned, fun request waits => ?_⟩
    rcases List.mem_append.mp waits with earlier | last
    · exact none request earlier
    · rw [List.mem_singleton.mp last]
      rintro rfl
      exact (ordered.returned _ returned).2 makingId

/-- The handler of a request that is handled has been reported. -/
theorem Ordered.handleRequest {since : Nat} {callId : Long} {system next : CallSystem}
    {readings : StateMachineBase.RequestReadings} (ordered : Ordered callId system)
    (stepped : system.step (.handleRequest readings) = some next)
    (coherent : Coherent since system) (bound : system.xmpp.ids.draws < 2 ^ 32 - 1) :
    Ordered callId next := by
  have whole := stepped
  obtain ⟨request, rest, pending, rfl⟩ := step_handleRequest.mp stepped
  refine ordered.frame whole rfl rfl ?_ (List.Subset.refl _) (List.nil_subset _)
    (List.Subset.refl _)
  intro id waits
  have member : request ∈ system.polling.pendingRequests ++ system.machine.handlerRequests := by
    rw [pending]
    exact List.mem_cons_self
  obtain ⟨-, -, handler, later, -, -, keeps, -, result⟩ := CallHandler.handleRequest_new readings
    (coherent.requests request member) system.stateHandlers system.xmpp
  have sound := coherent.sound bound member
  rw [waiting, pending] at waits
  rcases List.mem_cons.mp waits with rfl | rest
  · refine Or.inr ⟨(.addedHandler, callScheme.view handler), ?_, (keeps sound).2.1⟩
    show _ ∈ callLog (StateMachineBase.handleRequest callVirtuals readings request
      system.stateHandlers system.xmpp).2
    rw [result, callLog_onStateChange]
    exact List.mem_append_right _ List.mem_cons_self
  · exact Or.inl rest

/-- Every step keeps the order. -/
theorem Ordered.step {since : Nat} {callId : Long} {system next : CallSystem}
    {action : CallAction} (stepped : system.step action = some next)
    (coherent : Coherent since system) (ordered : Ordered callId system)
    (afterMade : DroppedAfterMade callId system action) (noRace : NoRace callId system action)
    (bound : next.xmpp.ids.draws < 2 ^ 32 - 1) : Ordered callId next := by
  have sameWaiting : next.waiting = system.waiting → ∀ id ∈ system.waiting, id ∈ next.waiting ∨
      ∃ report ∈ callLog next.xmpp, callScheme.key report.2 = id :=
    fun equal id member => Or.inl (equal ▸ member)
  have noEvents : ∀ events : List XmppEvent, [] ⊆ events := fun events => List.nil_subset events
  have whole := stepped
  cases action with
  | drawId =>
    obtain rfl := Option.some.inj stepped
    exact ordered.frame whole rfl rfl (sameWaiting rfl) (List.Subset.refl _) (List.Subset.refl _)
      (List.Subset.refl _)
  | drawCallId phoneNumber =>
    obtain rfl := Option.some.inj stepped
    have small : system.xmpp.ids.draws + 1 < 2 ^ 32 - 1 := bound
    refine ⟨fun id member => ?_, fun id member => ?_, ordered.queued, ordered.taken⟩
    · obtain ⟨drawn, unmade⟩ := ordered.returned id member
      refine ⟨drawn.mono (Nat.le_succ _), fun making => ?_⟩
      rw [List.map_append, List.mem_append] at making
      rcases making with earlier | last
      · exact unmade earlier
      · have fresh := UniqueId.getNextId_fresh drawn (by omega)
        exact fresh (List.mem_singleton.mp last).symm
    · rcases ordered.added id member with waits | reported
      · refine Or.inl ?_
        simp only [waiting, List.map_append, ← List.append_assoc] at waits ⊢
        exact List.mem_append_left _ waits
      · exact Or.inr reported
  | addCallHandler index reading => exact ordered.addCallHandler stepped coherent
  | dropCallAsync other =>
    obtain rfl := Option.some.inj stepped
    refine ⟨ordered.returned, ordered.added, fun event member data => ?_, ordered.taken⟩
    rcases List.mem_append.mp member with earlier | last
    · exact ordered.queued event earlier data
    · rw [List.mem_singleton.mp last] at data
      exact afterMade (XmppEventData.dropRequest.inj data)
  | addEvent added =>
    obtain rfl := Option.some.inj stepped
    refine ⟨ordered.returned, ordered.added, fun event member data => ?_, ordered.taken⟩
    rcases List.mem_append.mp member with earlier | last
    · exact ordered.queued event earlier data
    · rw [List.mem_singleton.mp last] at data
      exact absurd data afterMade
  | signalEvent readings event deleteEventData =>
    obtain ⟨-, rfl⟩ := step_signalEvent.mp stepped
    exact ordered.frame whole rfl rfl (sameWaiting rfl) (List.Subset.refl _) (List.Subset.refl _)
      (List.Subset.refl _)
  | testRequests =>
    obtain ⟨polling, rfl, pending, events⟩ := step_tests stepped (Or.inl rfl)
    exact ordered.frame whole rfl rfl (sameWaiting (waiting_polling pending)) (List.Subset.refl _)
      (events ▸ List.Subset.refl _) (List.Subset.refl _)
  | takeRequests =>
    obtain ⟨seen, rfl⟩ := step_takeRequests.mp stepped
    refine ordered.frame whole rfl rfl (fun id waits => Or.inl ?_) (List.Subset.refl _) (noEvents _)
      (List.nil_subset _)
    rw [waiting, seen] at waits
    show id ∈ (system.machine.handlerRequests ++ []).map _ ++ _
    rw [List.append_nil]
    exact waits
  | handleRequest readings =>
    exact ordered.handleRequest stepped coherent (lt_of_le_of_lt (draws_step whole) bound)
  | testEvents =>
    obtain ⟨polling, rfl, pending, events⟩ := step_tests stepped (Or.inr rfl)
    exact ordered.frame whole rfl rfl (sameWaiting (waiting_polling pending)) (List.Subset.refl _)
      (events ▸ List.Subset.refl _) (List.Subset.refl _)
  | takeEvents =>
    obtain ⟨seen, rfl⟩ := step_takeEvents.mp stepped
    refine ⟨ordered.returned, ?_, fun _ member => absurd member List.not_mem_nil,
      fun event member data => ?_⟩
    · have added := ordered.added
      rw [waiting, seen] at added
      exact added
    · exact ⟨ordered.queued event member data, noRace ⟨event, member, data⟩⟩
  | signalNext readings =>
    obtain ⟨event, rest, pending, rfl⟩ := step_signalNext.mp stepped
    refine ordered.frame whole rfl rfl (sameWaiting ?_) (List.Subset.refl _) ?_
      (List.Subset.refl _)
    · unfold waiting
      rw [pending]
      rfl
    · rw [pending]
      exact List.subset_cons_self event rest
  | pollHandlers readings =>
    obtain ⟨pending, rfl⟩ := step_pollHandlers.mp stepped
    refine ordered.frame whole rfl rfl (sameWaiting ?_) (List.Subset.refl _) (noEvents _)
      (List.Subset.refl _)
    unfold waiting
    rw [pending]
    rfl
  | removeStateHandlers =>
    obtain ⟨-, rfl⟩ := step_removeStateHandlers.mp stepped
    exact ordered.frame whole rfl rfl (sameWaiting rfl) (List.Subset.refl _) (List.Subset.refl _)
      (List.Subset.refl _)

/-- Every run whose requests come after their calls and do not overtake the handlers keeps the
order. -/
theorem ordered_of_run {login : LoginInfo} {actions : List CallAction} {system : CallSystem}
    {callId : Long} (reached : run CallSystem.step actions (CallSystem.new login) = some system)
    (afterMade : Along CallSystem.step (DroppedAfterMade callId) actions (CallSystem.new login))
    (noRace : Along CallSystem.step (NoRace callId) actions (CallSystem.new login))
    (bound : system.xmpp.ids.draws < 2 ^ 32 - 1) : Ordered callId system := by
  have preserved : ∀ earlier action next,
      (DroppedAfterMade callId earlier action ∧ NoRace callId earlier action) →
      CallSystem.step earlier action = some next →
      (earlier.xmpp.ids.draws < 2 ^ 32 - 1 →
        (∃ since, Coherent since earlier) ∧ Ordered callId earlier) →
      next.xmpp.ids.draws < 2 ^ 32 - 1 →
        (∃ since, Coherent since next) ∧ Ordered callId next := by
    intro earlier action next allowed stepped inductionHypothesis small
    obtain ⟨⟨since, coherent⟩, ordered⟩ :=
      inductionHypothesis (lt_of_le_of_lt (draws_step stepped) small)
    exact ⟨Coherent.exists_step stepped coherent small,
      Ordered.step stepped coherent ordered allowed.1 allowed.2 small⟩
  exact (run_invariant_along preserved reached (afterMade.and noRace)
    (fun _ => ⟨⟨0, Coherent.new login⟩, Ordered.new callId login⟩) bound).2

/-- The step signals a request to drop the call. -/
def DropSignalled (callId : Long) (system : CallSystem) (action : CallAction) : Prop :=
  ∃ readings event deleteEventData,
    system.signalOf action = some (readings, event, deleteEventData) ∧
      event.data = .dropRequest callId

/-- When the request is signalled, the handler of the call waits in no queue: it is in the machine
and hangs up, or it has been in the machine and has left it. -/
def DropHanded (callId : Long) (before after : CallSystem) : Prop :=
  callId ∉ before.waiting ∧
    ((∃ handler ∈ before.stateHandlers, handler.callId = callId) ∧ HungUp callId before after ∨
      (∀ handler ∈ before.stateHandlers, handler.callId ≠ callId) ∧
        ∃ notification ∈ callNotifications before.xmpp.effects,
          notification.stateData.callId = callId)

theorem dropHanded_of_ordered {since : Nat} {callId : Long} {before after : CallSystem}
    {action : CallAction} (coherent : Coherent since before) (ordered : Ordered callId before)
    (afterMade : DroppedAfterMade callId before action)
    (stepped : before.step action = some after) (signalled : DropSignalled callId before action)
    (bound : after.xmpp.ids.draws < 2 ^ 32 - 1) : DropHanded callId before after := by
  have hangs : (∃ handler ∈ before.stateHandlers, handler.callId = callId) →
      HungUp callId before after :=
    fun live => hungUp_of_accepted coherent ⟨signalled, live⟩ stepped (by omega)
  obtain ⟨readings, event, deleteEventData, signals, data⟩ := signalled
  cases action with
  | signalEvent given signalledEvent =>
    obtain ⟨rfl, rfl, rfl⟩ : given = readings ∧ signalledEvent = event ∧ _ = deleteEventData := by
      simpa [signalOf] using signals
    exact absurd data afterMade
  | signalNext given =>
    obtain ⟨first, rest, pending, -⟩ := step_signalNext.mp stepped
    obtain ⟨rfl, rfl, rfl⟩ : given = readings ∧ first = event ∧ true = deleteEventData := by
      simpa [signalOf, pending] using signals
    have inside : first ∈ before.polling.pendingEvents := by
      rw [pending]
      exact List.mem_cons_self
    obtain ⟨returned, noneWaits⟩ := ordered.taken first inside data
    have notWaiting : callId ∉ before.waiting := by
      rw [waiting, pending]
      intro member
      rcases List.mem_append.mp member with queue | making
      · obtain ⟨request, waits, same⟩ := List.mem_map.mp queue
        exact noneWaits request waits same
      · exact (ordered.returned callId returned).2 making
    refine ⟨notWaiting, ?_⟩
    by_cases live : ∃ handler ∈ before.stateHandlers, handler.callId = callId
    · exact Or.inl ⟨live, hangs live⟩
    · refine Or.inr ⟨fun handler member same => live ⟨handler, member, same⟩, ?_⟩
      rcases ordered.added callId returned with waits | ⟨report, reported, same⟩
      · exact absurd waits notWaiting
      · obtain ⟨notification, notified, rfl⟩ := List.mem_map.mp reported
        exact ⟨notification, notified, same⟩
  | _ => cases signals

end CallSystem

open CallSystem in
/-- In every run in which the requests to drop a call come after `MakeCallAsync` has returned its
id, and no poll takes one while the handler of the call waits for the next poll: whenever such a
request is signalled, the handler is in the machine and hangs up, or it has left the machine. -/
theorem dropRequest_handed {login : LoginInfo} {actions : List CallAction} {system : CallSystem}
    {callId : Long} (reached : run CallSystem.step actions (CallSystem.new login) = some system)
    (afterMade : Along CallSystem.step (DroppedAfterMade callId) actions (CallSystem.new login))
    (noRace : Along CallSystem.step (NoRace callId) actions (CallSystem.new login))
    (bound : system.xmpp.ids.draws < 2 ^ 32 - 1) :
    ∀ first action rest before after, actions = first ++ action :: rest →
      run CallSystem.step first (CallSystem.new login) = some before →
      before.step action = some after → DropSignalled callId before action →
        DropHanded callId before after := by
  rintro first action rest before after rfl toBefore stepped signalled
  obtain ⟨middle, next, toMiddle, stepped', remaining⟩ := run_split.mp reached
  obtain rfl : before = middle := Option.some.inj (toBefore.symm.trans toMiddle)
  obtain rfl : after = next := Option.some.inj (stepped.symm.trans stepped')
  have earlierBound := draws_step stepped
  have laterBound := draws_run remaining
  obtain ⟨since, coherent⟩ := exists_coherent_of_run toBefore (by omega)
  have ordered := ordered_of_run toBefore (afterMade.append toBefore).1
    (noRace.append toBefore).1 (by omega)
  exact dropHanded_of_ordered coherent ordered (afterMade.at_split toBefore) stepped signalled
    (by omega)

/-- The user makes a call and hangs it up at once, between the two drains of one poll. -/
def Example.makeAndDropBetween : List CallAction :=
  [.testRequests, .drawCallId "555".toList, .addCallHandler 0 (Example.reading 0),
    .dropCallAsync 1, .testEvents, .takeEvents]

/-- The request is discarded, and the call is made in the next poll. -/
theorem dropRequest_makeAndDropBetween :
    ¬ ∀ login actions callId (system : CallSystem),
      run CallSystem.step actions (CallSystem.new login) = some system →
      Along CallSystem.step (CallSystem.DroppedAfterMade callId) actions (CallSystem.new login) →
      ∀ first action rest before after, actions = first ++ action :: rest →
        run CallSystem.step first (CallSystem.new login) = some before →
        before.step action = some after → CallSystem.DropSignalled callId before action →
          CallSystem.DropHanded callId before after := by
  intro handed
  have reached : run CallSystem.step (Example.makeAndDropBetween ++
    [.signalNext (Example.readings 1)]) (CallSystem.new Example.login) = some _ := rfl
  have afterMade : Along CallSystem.step (CallSystem.DroppedAfterMade 1)
      (Example.makeAndDropBetween ++ [.signalNext (Example.readings 1)])
      (CallSystem.new Example.login) := by decide
  have waits := handed Example.login _ 1 _ reached afterMade Example.makeAndDropBetween _ [] _ _ rfl
    rfl rfl ⟨_, _, _, rfl, rfl⟩
  exact absurd waits.1 (by decide)

/-- The user makes a call, and hangs it up after the poll that dials the number. -/
def Example.makeThenDrop : List CallAction :=
  [.drawCallId "555".toList, .addCallHandler 0 (Example.reading 0)] ++ Example.pollOneRequest 0 ++
    [.dropCallAsync 1, .testRequests, .testEvents, .takeEvents]

/-- The request is handed to the handler of the call. -/
theorem dropRequest_makeThenDrop :
    ∃ before after, run CallSystem.step Example.makeThenDrop (CallSystem.new Example.login) =
        some before ∧
      before.step (.signalNext (Example.readings 5)) = some after ∧
      before.stateHandlers.map CallHandler.callId = [1] ∧
      CallSystem.DropHanded 1 before after := by
  have reached : run CallSystem.step (Example.makeThenDrop ++
    [.signalNext (Example.readings 5)]) (CallSystem.new Example.login) = some _ := rfl
  refine ⟨_, _, rfl, rfl, by decide, ?_⟩
  exact dropRequest_handed reached (by decide) (by decide) (by decide) Example.makeThenDrop _ [] _ _
    rfl rfl rfl ⟨_, _, _, rfl, rfl⟩

end JnTapi
