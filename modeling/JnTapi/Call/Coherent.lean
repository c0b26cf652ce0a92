/-
This file carries the register of the calls through the runs of the system.

Besides the register, a run keeps that every waiting handler is one that
`MakeCallAsync` has created. Removing the handlers of the machine all at once
reports nothing; it keeps the register only when there are none, and else a new
register begins.
-/

import JnTapi.Call.Ledger

namespace JnTapi

open Library

namespace CallSystem

/-! ### What a step does to the object -/

/-- What holds of every call of the call machine and of everything silent holds of every step. -/
theorem changes_step {changes : Xmpp → Xmpp → Prop} (frame : callVirtuals.Changes changes)
    (quiet : ∀ {before after : Xmpp}, before.Quiet after → changes before after)
    {system next : CallSystem} {action : CallAction} (stepped : system.step action = some next) :
    changes system.xmpp next.xmpp := by
  cases action with
  | drawId =>
    obtain rfl := Option.some.inj stepped
    exact quiet system.xmpp.quiet_getUniqueId
  | drawCallId phoneNumber =>
    obtain rfl := Option.some.inj stepped
    exact quiet system.xmpp.quiet_getUniqueId
  | addCallHandler index reading =>
    obtain ⟨callId, phoneNumber, -, rfl⟩ := step_addCallHandler.mp stepped
    exact frame.refl system.xmpp
  | dropCallAsync callId =>
    obtain rfl := Option.some.inj stepped
    exact frame.refl system.xmpp
  | addEvent event =>
    obtain rfl := Option.some.inj stepped
    exact frame.refl system.xmpp
  | signalEvent readings event deleteEventData =>
    obtain ⟨-, rfl⟩ := step_signalEvent.mp stepped
    exact frame.signalEvent readings event deleteEventData system.stateHandlers system.xmpp
  | testRequests =>
    obtain ⟨-, rfl⟩ := step_testRequests.mp stepped
    exact frame.refl system.xmpp
  | takeRequests =>
    obtain ⟨-, rfl⟩ := step_takeRequests.mp stepped
    exact frame.refl system.xmpp
  | handleRequest readings =>
    obtain ⟨request, rest, -, rfl⟩ := step_handleRequest.mp stepped
    exact frame.handleRequest readings request system.stateHandlers system.xmpp
  | testEvents =>
    obtain ⟨-, rfl⟩ := step_testEvents.mp stepped
    exact frame.refl system.xmpp
  | takeEvents =>
    obtain ⟨-, rfl⟩ := step_takeEvents.mp stepped
    exact frame.refl system.xmpp
  | signalNext readings =>
    obtain ⟨event, rest, -, rfl⟩ := step_signalNext.mp stepped
    exact frame.signalEvent readings event true system.stateHandlers system.xmpp
  | pollHandlers readings =>
    obtain ⟨-, rfl⟩ := step_pollHandlers.mp stepped
    exact frame.pollStateHandlers readings system.stateHandlers system.xmpp
  | removeStateHandlers =>
    obtain ⟨-, rfl⟩ := step_removeStateHandlers.mp stepped
    exact frame.removeStateHandlers system.stateHandlers system.xmpp

/-- No step takes an id back. -/
theorem draws_step {system next : CallSystem} {action : CallAction}
    (stepped : system.step action = some next) : system.xmpp.ids.draws ≤ next.xmpp.ids.draws :=
  changes_step callVirtuals_draws (fun quiet => quiet.draws) stepped

/-! ### Waiting handlers -/

/-- Every handler that waits for its request to be handled is one that `MakeCallAsync` has
created. -/
def NewRequests (system : CallSystem) : Prop :=
  ∀ request ∈ system.polling.pendingRequests ++ system.machine.handlerRequests,
    request.IsNewMakeCall

theorem NewRequests.polling {system : CallSystem} (requests : system.NewRequests)
    {polling : Polling} (same : polling.pendingRequests = system.polling.pendingRequests) :
    NewRequests { system with polling := polling } := by
  show ∀ request ∈ polling.pendingRequests ++ system.machine.handlerRequests, _
  rw [same]
  exact requests

/-- Every step keeps the waiting handlers new ones. -/
theorem NewRequests.step {system next : CallSystem} {action : CallAction}
    (stepped : system.step action = some next) (requests : system.NewRequests) :
    next.NewRequests := by
  cases action with
  | drawId =>
    obtain rfl := Option.some.inj stepped
    exact requests
  | drawCallId phoneNumber =>
    obtain rfl := Option.some.inj stepped
    exact requests
  | addCallHandler index reading =>
    obtain ⟨callId, phoneNumber, -, rfl⟩ := step_addCallHandler.mp stepped
    intro request member
    simp only [StateMachineBase.addStateHandler, ← List.append_assoc] at member
    rcases List.mem_append.mp member with earlier | last
    · exact requests request earlier
    · exact ⟨reading, phoneNumber, callId, List.mem_singleton.mp last⟩
  | dropCallAsync callId =>
    obtain rfl := Option.some.inj stepped
    exact requests
  | addEvent event =>
    obtain rfl := Option.some.inj stepped
    exact requests
  | signalEvent readings event deleteEventData =>
    obtain ⟨-, rfl⟩ := step_signalEvent.mp stepped
    exact requests
  | testRequests =>
    obtain ⟨polling, rfl, pending, -⟩ := step_tests stepped (Or.inl rfl)
    exact requests.polling pending
  | takeRequests =>
    obtain ⟨seen, rfl⟩ := step_takeRequests.mp stepped
    intro request member
    have waits : request ∈ system.machine.handlerRequests ++ [] := member
    rw [List.append_nil] at waits
    exact requests request (List.mem_append_right _ waits)
  | handleRequest readings =>
    obtain ⟨request, rest, pending, rfl⟩ := step_handleRequest.mp stepped
    intro other member
    refine requests other ?_
    rw [pending]
    exact List.mem_cons_of_mem _ member
  | testEvents =>
    obtain ⟨polling, rfl, pending, -⟩ := step_tests stepped (Or.inr rfl)
    exact requests.polling pending
  | takeEvents =>
    obtain ⟨seen, rfl⟩ := step_takeEvents.mp stepped
    intro request member
    exact requests request (List.mem_append_right _ member)
  | signalNext readings =>
    obtain ⟨event, rest, pending, rfl⟩ := step_signalNext.mp stepped
    intro request member
    exact requests request (List.mem_append_right _ member)
  | pollHandlers readings =>
    obtain ⟨pending, rfl⟩ := step_pollHandlers.mp stepped
    intro request member
    exact requests request (List.mem_append_right _ member)
  | removeStateHandlers =>
    obtain ⟨-, rfl⟩ := step_removeStateHandlers.mp stepped
    exact requests

/-! ### What every run keeps -/

/-- The register of the calls is in order, and the waiting handlers are new ones. -/
structure Coherent (since : Nat) (system : CallSystem) : Prop where
  ledger : Ledger since system.waiting system.stateHandlers system.xmpp
  requests : system.NewRequests

/-- The handlers are removed all at once only when there are none. -/
def NoneRemoved (system : CallSystem) (action : CallAction) : Prop :=
  action = .removeStateHandlers → system.stateHandlers = []

theorem Coherent.new (login : LoginInfo) : Coherent 0 (CallSystem.new login) :=
  ⟨Ledger.empty login, fun _ member => absurd member List.not_mem_nil⟩

/-- A handler that waits for its request to be handled is a sound one. -/
theorem Coherent.sound {since : Nat} {system : CallSystem} (coherent : Coherent since system)
    (bound : system.xmpp.ids.draws < 2 ^ 32 - 1) {request : CallHandler}
    (member : request ∈ system.polling.pendingRequests ++ system.machine.handlerRequests) :
    request.Sound := by
  have drawn := coherent.ledger.waitingDrawn request.callId
    (List.mem_append_left _ (List.mem_map.mpr ⟨request, member, rfl⟩))
  obtain ⟨reading, toDial, callId, rfl⟩ := coherent.requests request member
  exact CallHandler.sound_newMakeCall reading toDial (drawn.ne_minus_one bound)

/-- The ids that are to come stay the same when the polling thread goes on with the same
requests. -/
theorem waiting_polling {system : CallSystem} {polling : Polling}
    (same : polling.pendingRequests = system.polling.pendingRequests) :
    waiting { system with polling := polling } = system.waiting := by
  show (polling.pendingRequests ++ system.machine.handlerRequests).map _ ++ _ = _
  rw [same]
  rfl

/-- A step lets a call wait only by drawing its id. -/
theorem waiting_step {system next : CallSystem} {action : CallAction}
    (stepped : system.step action = some next) {callId : Long} (waits : callId ∈ next.waiting) :
    callId ∈ system.waiting ∨
      ∃ phoneNumber, action = .drawCallId phoneNumber ∧ callId = system.xmpp.getUniqueId.1 := by
  cases action with
  | drawId | dropCallAsync | addEvent =>
    obtain rfl := Option.some.inj stepped
    exact Or.inl waits
  | drawCallId phoneNumber =>
    obtain rfl := Option.some.inj stepped
    simp only [waiting, List.map_append, List.mem_append] at waits ⊢
    rcases waits with taken | made | drawn
    · exact Or.inl (Or.inl taken)
    · exact Or.inl (Or.inr made)
    · exact Or.inr ⟨phoneNumber, rfl, List.mem_singleton.mp drawn⟩
  | addCallHandler index reading =>
    obtain ⟨drawn, phoneNumber, found, rfl⟩ := step_addCallHandler.mp stepped
    left
    have made : drawn ∈ system.making.map Prod.fst :=
      List.mem_map_of_mem (List.mem_of_getElem? found)
    simp only [waiting, StateMachineBase.addStateHandler, List.map_append,
      List.mem_append] at waits ⊢
    rcases waits with (taken | queued | added) | kept
    · exact Or.inl (Or.inl taken)
    · exact Or.inl (Or.inr queued)
    · obtain rfl : callId = drawn := List.mem_singleton.mp added
      exact Or.inr made
    · exact Or.inr (((List.eraseIdx_sublist system.making index).map Prod.fst).subset kept)
  | signalEvent readings event deleteEventData =>
    obtain ⟨-, rfl⟩ := step_signalEvent.mp stepped
    exact Or.inl waits
  | testRequests =>
    obtain ⟨polling, rfl, pending, -⟩ := step_tests stepped (Or.inl rfl)
    rw [waiting_polling pending] at waits
    exact Or.inl waits
  | takeRequests =>
    obtain ⟨seen, rfl⟩ := step_takeRequests.mp stepped
    left
    simp only [waiting, seen, Polling.pendingRequests, StateMachineBase.takeRequests,
      List.append_nil] at waits ⊢
    exact waits
  | handleRequest readings =>
    obtain ⟨request, rest, pending, rfl⟩ := step_handleRequest.mp stepped
    rw [waiting, pending]
    exact Or.inl (List.mem_cons_of_mem request.callId waits)
  | testEvents =>
    obtain ⟨polling, rfl, pending, -⟩ := step_tests stepped (Or.inr rfl)
    rw [waiting_polling pending] at waits
    exact Or.inl waits
  | takeEvents =>
    obtain ⟨seen, rfl⟩ := step_takeEvents.mp stepped
    rw [waiting, seen]
    exact Or.inl waits
  | signalNext readings =>
    obtain ⟨event, rest, pending, rfl⟩ := step_signalNext.mp stepped
    rw [waiting, pending]
    exact Or.inl waits
  | pollHandlers readings =>
    obtain ⟨pending, rfl⟩ := step_pollHandlers.mp stepped
    rw [waiting, pending]
    exact Or.inl waits
  | removeStateHandlers =>
    obtain ⟨-, rfl⟩ := step_removeStateHandlers.mp stepped
    exact Or.inl waits

/-- Every step keeps the register, as long as the ids do not wrap. -/
theorem Coherent.ledger_step {since : Nat} {system next : CallSystem} {action : CallAction}
    (stepped : system.step action = some next) (coherent : Coherent since system)
    (noneRemoved : NoneRemoved system action) (bound : next.xmpp.ids.draws < 2 ^ 32 - 1) :
    Ledger since next.waiting next.stateHandlers next.xmpp := by
  have more := draws_step stepped
  have ledger := coherent.ledger
  cases action with
  | drawId =>
    obtain rfl := Option.some.inj stepped
    exact ledger.quiet system.xmpp.quiet_getUniqueId
  | drawCallId phoneNumber =>
    obtain rfl := Option.some.inj stepped
    have small : system.xmpp.ids.draws + 1 < 2 ^ 32 - 1 := bound
    refine (ledger.draw (by omega)).perm ?_
    simp only [waiting, List.map_append, List.map_singleton, ← List.append_assoc]
    exact (List.perm_append_singleton _ _).symm
  | addCallHandler index reading =>
    obtain ⟨callId, phoneNumber, found, rfl⟩ := step_addCallHandler.mp stepped
    refine ledger.perm ?_
    obtain ⟨inside, same⟩ := List.getElem?_eq_some_iff.mp found
    have taken : (system.making.map Prod.fst).Perm
        (callId :: (system.making.eraseIdx index).map Prod.fst) := by
      have split := List.getElem_cons_eraseIdx_perm inside
      rw [same] at split
      exact (split.map Prod.fst).symm
    simp only [waiting, StateMachineBase.addStateHandler, ← List.append_assoc, List.map_append,
      List.map_singleton]
    rw [List.append_assoc _ [_] _, List.singleton_append]
    exact taken.append_left _
  | dropCallAsync callId =>
    obtain rfl := Option.some.inj stepped
    exact ledger
  | addEvent event =>
    obtain rfl := Option.some.inj stepped
    exact ledger
  | signalEvent readings event deleteEventData =>
    obtain ⟨-, rfl⟩ := step_signalEvent.mp stepped
    exact ledger.signalEvent readings event deleteEventData bound
  | testRequests =>
    obtain ⟨polling, rfl, pending, -⟩ := step_tests stepped (Or.inl rfl)
    rw [waiting_polling pending]
    exact ledger
  | takeRequests =>
    obtain ⟨seen, rfl⟩ := step_takeRequests.mp stepped
    have same : system.machine.handlerRequests ++ [] =
        system.polling.pendingRequests ++ system.machine.handlerRequests := by
      rw [seen, List.append_nil]
      rfl
    show Ledger since ((system.machine.handlerRequests ++ []).map _ ++ _) _ _
    rw [same]
    exact ledger
  | handleRequest readings =>
    obtain ⟨request, rest, pending, rfl⟩ := step_handleRequest.mp stepped
    have same : system.polling.pendingRequests ++ system.machine.handlerRequests =
        request :: (rest ++ system.machine.handlerRequests) := by
      rw [pending]
      rfl
    have member : request ∈ system.polling.pendingRequests ++ system.machine.handlerRequests := by
      rw [same]
      exact List.mem_cons_self
    have sound := coherent.sound (lt_of_le_of_lt more bound) member
    refine Ledger.handleRequest ?_ (coherent.requests request member) sound readings
    rw [waiting, same] at ledger
    exact ledger
  | testEvents =>
    obtain ⟨polling, rfl, pending, -⟩ := step_tests stepped (Or.inr rfl)
    rw [waiting_polling pending]
    exact ledger
  | takeEvents =>
    obtain ⟨seen, rfl⟩ := step_takeEvents.mp stepped
    have same : Polling.pendingRequests (.signallingEvents system.machine.events) =
        system.polling.pendingRequests := by
      rw [seen]
      rfl
    rw [waiting, same]
    exact ledger
  | signalNext readings =>
    obtain ⟨event, rest, pending, rfl⟩ := step_signalNext.mp stepped
    have same : Polling.pendingRequests (.signallingEvents rest) =
        system.polling.pendingRequests := by
      rw [pending]
      rfl
    rw [waiting, same]
    exact ledger.signalEvent readings event true bound
  | pollHandlers readings =>
    obtain ⟨pending, rfl⟩ := step_pollHandlers.mp stepped
    have same : Polling.pendingRequests .idle = system.polling.pendingRequests := by
      rw [pending]
      rfl
    rw [waiting, same]
    exact ledger.pollStateHandlers readings
  | removeStateHandlers =>
    obtain ⟨-, rfl⟩ := step_removeStateHandlers.mp stepped
    have none := noneRemoved rfl
    rw [none] at ledger
    rw [none]
    exact ledger

/-- Every step keeps the system coherent, as long as the ids do not wrap. -/
theorem Coherent.step {since : Nat} {system next : CallSystem} {action : CallAction}
    (stepped : system.step action = some next) (coherent : Coherent since system)
    (noneRemoved : NoneRemoved system action) (bound : next.xmpp.ids.draws < 2 ^ 32 - 1) :
    Coherent since next :=
  ⟨coherent.ledger_step stepped noneRemoved bound, coherent.requests.step stepped⟩

/-- Removing the handlers all at once begins a new register. -/
theorem Coherent.removed {since : Nat} {system : CallSystem} (coherent : Coherent since system) :
    Coherent (callLog system.xmpp).length (system.withHandlers
      (StateMachine.removeStateHandlers callVirtuals system.stateHandlers system.xmpp)) := by
  have quiet := CallHandler.quiet_removeStateHandlers system.stateHandlers system.xmpp
  exact ⟨coherent.ledger.removed.quiet quiet, coherent.requests⟩

/-- Every step keeps a register, of which the removal of the handlers may begin a new one. -/
theorem Coherent.exists_step {since : Nat} {system next : CallSystem} {action : CallAction}
    (stepped : system.step action = some next) (coherent : Coherent since system)
    (bound : next.xmpp.ids.draws < 2 ^ 32 - 1) : ∃ later, Coherent later next := by
  by_cases removal : action = .removeStateHandlers
  · subst removal
    obtain ⟨-, rfl⟩ := step_removeStateHandlers.mp stepped
    exact ⟨_, coherent.removed⟩
  · exact ⟨since, coherent.step stepped (fun same => absurd same removal) bound⟩

/-! ### Runs -/

theorem draws_run {system last : CallSystem} {actions : List CallAction}
    (reached : run CallSystem.step actions system = some last) :
    system.xmpp.ids.draws ≤ last.xmpp.ids.draws :=
  run_related (fun earlier later => earlier.xmpp.ids.draws ≤ later.xmpp.ids.draws)
    (fun _ => le_refl _) (fun left right => left.trans right)
    (fun _ _ _ stepped => draws_step stepped) reached

/-- Every run from the start that removes no handlers all at once, and whose ids have not
wrapped, leads to a coherent system. -/
theorem coherent_of_run {login : LoginInfo} {system : CallSystem} {actions : List CallAction}
    (reached : run CallSystem.step actions (CallSystem.new login) = some system)
    (noneRemoved : Along CallSystem.step NoneRemoved actions (CallSystem.new login))
    (bound : system.xmpp.ids.draws < 2 ^ 32 - 1) : Coherent 0 system := by
  have preserved : ∀ earlier action next, NoneRemoved earlier action →
      CallSystem.step earlier action = some next →
      (earlier.xmpp.ids.draws < 2 ^ 32 - 1 → Coherent 0 earlier) →
      next.xmpp.ids.draws < 2 ^ 32 - 1 → Coherent 0 next := by
    intro earlier action next allowed stepped inductionHypothesis small
    have coherent := inductionHypothesis (lt_of_le_of_lt (draws_step stepped) small)
    exact Coherent.step stepped coherent allowed small
  exact run_invariant_along preserved reached noneRemoved (fun _ => Coherent.new login) bound

/-- Every run from the start whose ids have not wrapped keeps a register since the last removal
of the handlers. -/
theorem exists_coherent_of_run {login : LoginInfo} {system : CallSystem}
    {actions : List CallAction}
    (reached : run CallSystem.step actions (CallSystem.new login) = some system)
    (bound : system.xmpp.ids.draws < 2 ^ 32 - 1) : ∃ since, Coherent since system := by
  have preserved : ∀ earlier action next, CallSystem.step earlier action = some next →
      (earlier.xmpp.ids.draws < 2 ^ 32 - 1 → ∃ since, Coherent since earlier) →
      next.xmpp.ids.draws < 2 ^ 32 - 1 → ∃ since, Coherent since next := by
    intro earlier action next stepped inductionHypothesis small
    obtain ⟨since, coherent⟩ := inductionHypothesis (lt_of_le_of_lt (draws_step stepped) small)
    exact Coherent.exists_step stepped coherent small
  exact run_invariant preserved reached (fun _ => ⟨0, Coherent.new login⟩) bound

end CallSystem

end JnTapi
