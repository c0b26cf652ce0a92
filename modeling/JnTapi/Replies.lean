/-
This file proves that a reply of the server goes to the handler that has sent the
request.

Both machines draw the context ids of their requests from one generator, and a
handler keeps no other id than those it has drawn. So no two handlers keep the same
id as long as the generator has not wrapped, and a handler that accepts a reply
keeps the id of the reply.
-/

import Mathlib.Tactic.Abel
import Mathlib.Data.Multiset.OrderedMonoid
import Mathlib.Algebra.Order.BigOperators.Group.List
import JnTapi.Library.Issued
import JnTapi.Frames
import JnTapi.Init.Facts
import JnTapi.OnSipXmpp
import JnTapi.Call.Commands
import JnTapi.Call.HangUp

namespace JnTapi

open Library

/-- An id, unless it is the zero that stands for none -/
def nonzero (id : Long) : Multiset Long := if id = 0 then 0 else {id}

theorem nonzero_le (id : Long) : nonzero id ≤ {id} := by
  unfold nonzero
  split_ifs
  · exact Multiset.zero_le _
  · exact le_refl _

theorem mem_nonzero {id : Long} (given : id ≠ 0) : id ∈ nonzero id := by
  rw [nonzero, if_neg given]
  exact Multiset.mem_singleton_self id

/-! ### The login -/

namespace InitStateHandler

/-- The context ids that the handler of the login keeps -/
def contextIds (handler : InitStateHandler) : Multiset Long :=
  nonzero handler.contextId + nonzero handler.unsubscribeContextId

/-- The handler keeps its ids, and those that it draws. -/
abbrev Draws (handler : InitStateHandler) (xmpp : Xmpp) (next : InitStateHandler) (later : Xmpp) :
    Prop :=
  Issues (BitVec.ofNat 32) handler.contextIds xmpp.ids.draws next.contextIds later.ids.draws

theorem draws_prelogon (success : Bool) (reading : Reading) (handler : InitStateHandler)
    (event : XmppEvent) (xmpp : Xmpp) :
    handler.Draws xmpp (handler.prelogon success reading event xmpp).2.1
      (handler.prelogon success reading event xmpp).2.2 := by
  unfold prelogon
  split_ifs
  · refine Issues.draw ?_
    show nonzero (BitVec.ofNat 32 (xmpp.ids.draws + 1)) + nonzero handler.unsubscribeContextId ≤
      nonzero handler.contextId + nonzero handler.unsubscribeContextId + _
    rw [add_comm]
    exact add_le_add (Multiset.le_add_left _ _) (nonzero_le _)
  · exact Issues.refl _ _

theorem draws_authorizing (reading : Reading) (handler : InitStateHandler) (event : XmppEvent)
    (xmpp : Xmpp) : handler.Draws xmpp (handler.authorizing reading event xmpp).2.1
      (handler.authorizing reading event xmpp).2.2 := by
  unfold authorizing
  split_ifs
  · split <;> exact Issues.refl _ _
  · exact Issues.refl _ _

theorem draws_anyState (reading : Reading) (handler : InitStateHandler) (event : XmppEvent)
    (xmpp : Xmpp) : handler.Draws xmpp (handler.anyState reading event xmpp).2.1
      (handler.anyState reading event xmpp).2.2 := by
  unfold anyState
  split
  · exact Issues.refl _ _
  · refine Issues.draw ?_
    show nonzero handler.contextId + nonzero (BitVec.ofNat 32 (xmpp.ids.draws + 1)) ≤
      nonzero handler.contextId + nonzero handler.unsubscribeContextId + _
    exact add_le_add (Multiset.le_add_right _ _) (nonzero_le _)
  · split_ifs <;> exact Issues.refl _ _
  · exact Issues.refl _ _

theorem draws_isYourEvent (reading : Reading) (handler : InitStateHandler) (event : XmppEvent)
    (xmpp : Xmpp) : handler.Draws xmpp (handler.isYourEvent reading event xmpp).2.1
      (handler.isYourEvent reading event xmpp).2.2 := by
  unfold isYourEvent
  split
  · exact draws_prelogon _ reading handler event xmpp
  · exact draws_prelogon _ reading handler event xmpp
  · exact draws_authorizing reading handler event xmpp
  · split_ifs
    · exact draws_authorizing reading handler event xmpp
    · exact draws_anyState reading handler event xmpp
  · unfold enabling
    split_ifs <;> exact Issues.refl _ _
  · exact draws_anyState reading handler event xmpp

theorem draws_isStillExist (handler : InitStateHandler) (xmpp : Xmpp) :
    handler.Draws xmpp (handler.isStillExist xmpp).2.1 (handler.isStillExist xmpp).2.2 := by
  unfold isStillExist
  split_ifs <;> exact Issues.refl _ _

theorem contextIds_checkStateTimeouts (reading : Reading) (states : List InitStates)
    (handler : InitStateHandler) :
    (checkStateTimeouts reading states handler).2.contextIds = handler.contextIds := by
  induction states with
  | nil => rfl
  | cons initState rest inductionHypothesis =>
    simp only [checkStateTimeouts, checkStateTimeout]
    split_ifs
    · rfl
    · exact inductionHypothesis

theorem draws_pollStateHandler (reading : Reading) (handler : InitStateHandler) (xmpp : Xmpp) :
    handler.Draws xmpp (handler.pollStateHandler reading xmpp).2.1
      (handler.pollStateHandler reading xmpp).2.2 := by
  have renewed : handler.Draws xmpp (handler.handleReAuthorize reading xmpp).2.1
      (handler.handleReAuthorize reading xmpp).2.2 := by
    have draws := (loginOnly_handleReAuthorize reading handler xmpp).quiet.draws
    refine Issues.of_le (le_of_eq ?_) draws
    unfold handleReAuthorize
    split
    · rfl
    · split
      · split_ifs <;> rfl
      · split_ifs <;> rfl
  refine @pollStateHandler_rule (handler.Draws xmpp) reading handler xmpp (Issues.refl _ _) renewed
    ?_ ?_
  · intro next later draws
    refine draws.trans (Issues.of_le (le_of_eq ?_) (loginOnly_pollPing reading next later).quiet.draws)
    unfold pollPing
    split_ifs <;> rfl
  · intro states next later draws
    refine draws.trans (Issues.of_le (le_of_eq ?_) (le_refl _))
    exact contextIds_checkStateTimeouts reading states next

/-- A handler of the login that accepts a reply keeps its id. -/
theorem mem_contextIds_of_accepts {reading : Reading} {handler : InitStateHandler}
    {event : XmppEvent} {xmpp : Xmpp}
    (accepts : (handler.isYourEvent reading event xmpp).1 = true)
    (reply : event.data = .iqResult ∨ ∃ callSetupId, event.data = .callRequest callSetupId)
    (given : event.context ≠ 0) : event.context ∈ handler.contextIds := by
  have fromState : (handler.anyState reading event xmpp).1 = true →
      event.context ∈ handler.contextIds := by
    intro accepted
    unfold anyState at accepted
    rcases reply with result | ⟨callSetupId, request⟩
    · rw [result] at accepted
      dsimp only at accepted
      split_ifs at accepted with own
      exact Multiset.mem_add.mpr (Or.inr (own.2 ▸ mem_nonzero given))
    · rw [request] at accepted
      cases accepted
  unfold isYourEvent at accepts
  rcases reply with result | ⟨callSetupId, request⟩
  · rw [result] at accepts
    split at accepts
    · rename_i same
      cases same
    · rename_i same
      cases same
    · rename_i same
      cases same
    · split_ifs at accepts with own
      · exact Multiset.mem_add.mpr (Or.inl (own ▸ mem_nonzero given))
      · exact fromState accepts
    · rename_i same
      cases same
    · exact fromState accepts
  · rw [request] at accepts
    split at accepts
    · rename_i same
      cases same
    · rename_i same
      cases same
    · rename_i same
      cases same
    · rename_i same
      cases same
    · rename_i same
      cases same
    · exact fromState accepts

/-- One call of a method of the handler, or of its worker, with the counts of the ids drawn before
and after it -/
inductive Steps : InitStateHandler → Nat → InitStateHandler → Nat → Prop
  | isYourEvent (reading : Reading) (handler : InitStateHandler) (event : XmppEvent)
      (xmpp : Xmpp) : Steps handler xmpp.ids.draws (handler.isYourEvent reading event xmpp).2.1
        (handler.isYourEvent reading event xmpp).2.2.ids.draws
  | isStillExist (handler : InitStateHandler) (xmpp : Xmpp) : Steps handler xmpp.ids.draws
      (handler.isStillExist xmpp).2.1 (handler.isStillExist xmpp).2.2.ids.draws
  | pollStateHandler (reading : Reading) (handler : InitStateHandler) (xmpp : Xmpp) :
      Steps handler xmpp.ids.draws (handler.pollStateHandler reading xmpp).2.1
        (handler.pollStateHandler reading xmpp).2.2.ids.draws
  | handleIqID (event : Option XmppEvent) (handler : InitStateHandler) (draws : Nat) :
      Steps handler draws (handler.handleIqID event) draws
  | handleMessage (event : XmppEvent) (handler : InitStateHandler) (draws : Nat) :
      Steps handler draws (handler.handleMessage event) draws

/-- The handler has drawn the ids that it keeps. -/
abbrev OwnIds : InitStateHandler → Prop := HoldsOwn (BitVec.ofNat 32) Steps contextIds

end InitStateHandler

open InitStateHandler in
/-- A handler of the login machine keeps no other ids than those that it has drawn itself. -/
theorem initVirtuals_own : initVirtuals.Carries fun before after =>
    (∀ handler ∈ before.1, OwnIds handler) → ∀ handler ∈ after.1, OwnIds handler :=
  Virtuals.carries_forall
    (fun reading handler event xmpp own =>
      own.step (.isYourEvent reading handler event xmpp) (draws_isYourEvent reading handler event xmpp))
    (fun _ handler xmpp own => own.step (.isStillExist handler xmpp) (draws_isStillExist handler xmpp))
    (fun reading handler xmpp own =>
      own.step (.pollStateHandler reading handler xmpp) (draws_pollStateHandler reading handler xmpp))
    (fun _ _ _ _ member => nomatch member) (fun _ _ _ own => own)

/-- Every call of the login machine gives out the ids that its handlers keep. -/
theorem initVirtuals_issues : initVirtuals.Carries fun before after =>
    Issues (BitVec.ofNat 32) (before.1.map InitStateHandler.contextIds).sum before.2.ids.draws
      (after.1.map InitStateHandler.contextIds).sum after.2.ids.draws where
  refl pair := Issues.refl _ _
  trans := Issues.trans
  beside left right issues := issues.beside left right
  isYourEvent reading handler event xmpp := by
    simp only [List.map_singleton, List.sum_singleton]
    exact handler.draws_isYourEvent reading event xmpp
  isStillExist reading handler xmpp := by
    simp only [List.map_singleton, List.sum_singleton]
    exact handler.draws_isStillExist xmpp
  pollStateHandler reading handler xmpp := by
    simp only [List.map_singleton, List.sum_singleton]
    exact handler.draws_pollStateHandler reading xmpp
  unknownEvent _ _ _ := Issues.refl _ _
  onStateChange _ _ _ := Issues.refl _ _
  preExecute _ _ _ := Issues.refl _ _
  deleteEvent _ _ := Issues.refl _ _
  deleteHandler _ _ := Issues.of_le (Multiset.zero_le _) (le_refl _)

/-! ### The calls -/

/-- The context id of a command that creates or terminates a call -/
def Effect.callContextId? : Effect → Option Long
  | .create contextId _ _ _ | .terminate contextId _ _ _ => some contextId
  | _ => none

/-- The context ids of the commands of calls that have been sent -/
def Xmpp.callContextIds (xmpp : Xmpp) : Multiset Long :=
  ↑(xmpp.callCommands.filterMap Effect.callContextId?)

theorem Xmpp.callContextIds_emit (xmpp : Xmpp) {effect : Effect} {contextId : Long}
    (command : effect.isCallCommand = true) (own : effect.callContextId? = some contextId) :
    (xmpp.emit effect).callContextIds = xmpp.callContextIds + {contextId} := by
  have commands : (xmpp.emit effect).callCommands = xmpp.callCommands ++ [effect] := by
    simp [Xmpp.callCommands, Xmpp.emit, command]
  rw [Xmpp.callContextIds, commands, List.filterMap_append, ← Multiset.coe_add]
  simp [Xmpp.callContextIds, own]

/-- The commands are the same when nothing but others have been added. -/
theorem Xmpp.Emits.callContextIds_eq {allowed : Effect → Prop} {before after : Xmpp}
    (emits : before.Emits allowed after)
    (apart : ∀ effect, allowed effect → effect.isCallCommand = false) :
    after.callContextIds = before.callContextIds := by
  rw [callContextIds, callContextIds, callCommands, callCommands, emits.filter_eq apart]

/-- Commands with new ids are sent, and no other ids are kept than before and those of the
commands. -/
structure Sends (before : Multiset Long) (xmpp : Xmpp) (after : Multiset Long) (later : Xmpp) :
    Prop where
  issues : Issues (BitVec.ofNat 32) xmpp.callContextIds xmpp.ids.draws later.callContextIds
    later.ids.draws
  keeps : after + xmpp.callContextIds ≤ before + later.callContextIds

namespace Sends

variable {before between after : Multiset Long} {first second third : Xmpp}

/-- Nothing is sent. -/
theorem of_le (fewer : after ≤ before) (draws : first.ids.draws ≤ second.ids.draws)
    (same : second.callContextIds = first.callContextIds) : Sends before first after second :=
  ⟨Issues.of_le (le_of_eq same) draws, same ▸ add_le_add_left fewer _⟩

theorem refl (held : Multiset Long) (xmpp : Xmpp) : Sends held xmpp held xmpp :=
  of_le (le_refl held) (le_refl _) rfl

theorem trans (left : Sends before first between second)
    (right : Sends between second after third) : Sends before first after third := by
  refine ⟨left.issues.trans right.issues, ?_⟩
  have both := add_le_add right.keeps left.keeps
  refine le_of_add_le_add_right (a := between + second.callContextIds) ?_
  calc after + first.callContextIds + (between + second.callContextIds)
      = after + second.callContextIds + (between + first.callContextIds) := by abel
    _ ≤ between + third.callContextIds + (before + second.callContextIds) := both
    _ = before + third.callContextIds + (between + second.callContextIds) := by abel

/-- One command is sent with the id that is drawn for it. -/
theorem command (held : Multiset Long) (xmpp : Xmpp) {effect : Effect}
    (sent : effect.isCallCommand = true)
    (own : effect.callContextId? = some xmpp.getUniqueId.1) :
    Sends held xmpp (held + {xmpp.getUniqueId.1}) (xmpp.getUniqueId.2.emit effect) := by
  have commands : (xmpp.getUniqueId.2.emit effect).callContextIds =
      xmpp.callContextIds + {xmpp.getUniqueId.1} := Xmpp.callContextIds_emit _ sent own
  refine ⟨Issues.draw (le_of_eq commands), le_of_eq ?_⟩
  rw [commands]
  abel

/-- Others keep what they keep. -/
theorem add (sends : Sends before first after second) (beside : Multiset Long) :
    Sends (before + beside) first (after + beside) second := by
  refine ⟨sends.issues, ?_⟩
  calc after + beside + first.callContextIds
      = after + first.callContextIds + beside := add_right_comm _ _ _
    _ ≤ before + second.callContextIds + beside := add_le_add_left sends.keeps beside
    _ = before + beside + second.callContextIds := add_right_comm _ _ _

/-- What is kept has been kept before, or is drawn in between. -/
theorem held (sends : Sends before first after second) :
    Issues (BitVec.ofNat 32) before first.ids.draws after second.ids.draws := by
  refine ⟨sends.issues.forward, ?_⟩
  refine le_of_add_le_add_right (a := first.callContextIds) ?_
  calc after + first.callContextIds
      ≤ before + second.callContextIds := sends.keeps
    _ ≤ before + (first.callContextIds + issued (BitVec.ofNat 32) first.ids.draws
        second.ids.draws) := add_le_add_right sends.issues.held before
    _ = _ := by abel

/-- Nothing but routine happens. -/
theorem of_routine (fewer : after ≤ before) (quiet : first.ids.draws ≤ second.ids.draws)
    (routine : first.Emits Effect.Routine second) : Sends before first after second :=
  of_le fewer quiet (routine.callContextIds_eq fun _ routine => routine.isCallCommand_eq)

end Sends

namespace CallHandler

/-- The context ids that a call handler keeps -/
def contextIds (handler : CallHandler) : Multiset Long :=
  (match handler.kind with
    | .makeCall make => nonzero make.contextId
    | _ => 0) + ↑handler.droppedContextIds

/-- The loop over the branches keeps the id of each command. -/
theorem sends_dropBranches (branches : List OnSipCallStateData) (handler : CallHandler)
    (xmpp : Xmpp) : Sends handler.contextIds xmpp (dropBranches branches handler xmpp).1.contextIds
      (dropBranches branches handler xmpp).2 := by
  induction branches generalizing handler xmpp with
  | nil => exact Sends.refl _ _
  | cons branch rest inductionHypothesis =>
    have dropped : Sends handler.contextIds xmpp
        (handler.contextIds + {xmpp.getUniqueId.1}) (dropCall branch xmpp).2 :=
      Sends.command _ xmpp rfl rfl
    have kept : CallHandler.contextIds { handler with
        droppedContextIds := handler.droppedContextIds ++ [xmpp.getUniqueId.1] } =
        handler.contextIds + {xmpp.getUniqueId.1} := by
      unfold contextIds
      rw [← Multiset.coe_add, add_assoc]
      rfl
    rw [← kept] at dropped
    exact dropped.trans (inductionHypothesis _ _)

/-- The ids of the kind, and those of the commands that drop the call -/
theorem contextIds_of_kind {handler next : CallHandler} (kind : next.kind = handler.kind)
    (dropped : next.droppedContextIds = handler.droppedContextIds) :
    next.contextIds = handler.contextIds := by
  rw [contextIds, contextIds, kind, dropped]

/-- A handler of a call that the program makes keeps the same ids while its command stays the
same. -/
theorem contextIds_of_make {handler next : CallHandler} {make other : MakeCallData}
    (kind : handler.kind = .makeCall make) (nextKind : next.kind = .makeCall other)
    (same : other.contextId = make.contextId)
    (dropped : next.droppedContextIds = handler.droppedContextIds) :
    next.contextIds = handler.contextIds := by
  rw [contextIds, contextIds, kind, nextKind, dropped]
  dsimp only
  rw [same]

/-- An active-call event adds no id to the handler of a call that the program makes. -/
theorem contextIds_makeCallActiveCall {make : MakeCallData} {handler : CallHandler}
    (kind : handler.kind = .makeCall make) (reading : Reading) (event : XmppEvent)
    (ace : ActiveCall) (xmpp : Xmpp) :
    (handler.makeCallActiveCall make reading event ace xmpp).2.1.contextIds =
      handler.contextIds := by
  unfold makeCallActiveCall
  split_ifs
  · exact contextIds_of_make kind rfl rfl rfl
  · rfl
  · exact contextIds_of_kind rfl rfl
  · exact contextIds_of_kind rfl rfl
  · exact contextIds_of_make kind rfl rfl rfl
  · exact contextIds_of_make kind rfl rfl rfl
  · exact contextIds_of_kind rfl rfl
  · exact contextIds_of_kind rfl rfl
  · rfl

/-- An event that is no request to drop a call adds no id. -/
theorem contextIds_isYourEvent (reading : Reading) (handler : CallHandler) {event : XmppEvent}
    (xmpp : Xmpp) (other : ∀ callId, event.data ≠ .dropRequest callId) :
    (handler.isYourEvent reading event xmpp).2.1.contextIds ≤ handler.contextIds := by
  have replied : (handler.dropRequestOrReply reading event xmpp).2.1.contextIds ≤
      handler.contextIds := by
    unfold dropRequestOrReply checkDropRequestEvent checkIqReplyDropRequest
    cases data : event.data with
    | dropRequest callId => exact absurd data (other callId)
    | iqResult =>
      dsimp only
      split_ifs
      · exact add_le_add_right (Multiset.coe_le.mpr (List.erase_subperm _ _)) _
      · exact le_refl _
    | _ => exact le_refl _
  have same : ∀ next : CallHandler, next.kind = handler.kind →
      next.droppedContextIds = handler.droppedContextIds →
      next.contextIds ≤ handler.contextIds := fun next kind dropped =>
    le_of_eq (contextIds_of_kind kind dropped)
  unfold isYourEvent
  cases kind : handler.kind with
  | outgoing =>
    dsimp only
    unfold outgoingIsYourEvent
    split
    · split_ifs <;> exact same _ rfl rfl
    · split_ifs <;> exact same _ rfl rfl
    · exact replied
  | incoming =>
    dsimp only
    unfold incomingIsYourEvent
    split
    · split_ifs <;> exact same _ rfl rfl
    · split_ifs
      · exact same _ rfl rfl
      · split
        · exact same _ rfl rfl
        · exact same _ rfl rfl
    · exact replied
  | makeCall make =>
    dsimp only
    unfold makeCallIsYourEvent
    split
    · rename_i ace _
      split_ifs
      · exact same _ rfl rfl
      · exact same _ rfl rfl
      · exact le_of_eq (@contextIds_makeCallActiveCall make
          (handler.addBranch event.id ace false handler.callSetupIdArgument) kind reading event ace
          xmpp)
    · split_ifs
      · split
        · exact same _ rfl rfl
        · exact same _ rfl rfl
      · exact same _ rfl rfl
      · exact same _ rfl rfl
    · split_ifs <;> exact same _ rfl rfl
    · exact replied

/-- The request to drop the call keeps the id of each command that it sends. -/
theorem sends_isYourEvent (reading : Reading) (handler : CallHandler) (event : XmppEvent)
    (xmpp : Xmpp) : Sends handler.contextIds xmpp
      (handler.isYourEvent reading event xmpp).2.1.contextIds
      (handler.isYourEvent reading event xmpp).2.2 := by
  by_cases request : ∃ callId, event.data = .dropRequest callId
  · obtain ⟨callId, data⟩ := request
    rw [isYourEvent_dropRequest reading handler xmpp data]
    by_cases own : callId = handler.callId
    · have dropped := sends_dropBranches handler.branches.branches handler xmpp
      have accepted : handler.checkDropRequestEvent event handler.callId xmpp =
          (true, dropBranches handler.branches.branches handler xmpp) := by
        simp [checkDropRequestEvent, data, own]
      rw [dropRequestOrReply, accepted]
      refine dropped.trans ?_
      have silent : Xmpp.Emits Effect.Routine
          (dropBranches handler.branches.branches handler xmpp).2
          (((dropBranches handler.branches.branches handler xmpp).2.release
            (dropBranches handler.branches.branches handler xmpp).1.currentState.eventData
            ).deleteEvent event) :=
        (emits_release _ _).trans (Xmpp.Emits.emit (.deleted event) _)
      refine Sends.of_routine (le_of_eq (contextIds_of_kind rfl rfl)) ?_ silent
      exact ((Xmpp.quiet_release _ _).trans (Xmpp.quiet_deleteEvent event _)).draws
    · have refused : handler.dropRequestOrReply reading event xmpp = (false, handler, xmpp) := by
        simp [dropRequestOrReply, checkDropRequestEvent, checkIqReplyDropRequest, data, own]
      rw [refused]
      exact Sends.refl _ _
  · have other : ∀ callId, event.data ≠ .dropRequest callId := fun callId data =>
      request ⟨callId, data⟩
    refine Sends.of_le (contextIds_isYourEvent reading handler xmpp other) ?_ ?_
    · exact (continues_isYourEvent reading handler event xmpp).2.draws
    · exact (emits_isYourEvent reading handler xmpp).callContextIds_eq
        fun effect answer => answer.isCallCommand_eq other

theorem sends_isStillExist (reading : Reading) (handler : CallHandler) (xmpp : Xmpp) :
    Sends handler.contextIds xmpp (handler.isStillExist reading xmpp).2.1.contextIds
      (handler.isStillExist reading xmpp).2.2 := by
  rcases isStillExist_cases reading handler xmpp with same | ⟨-, lapsed⟩
  · rw [same]
    exact Sends.refl _ _
  · rw [lapsed]
    exact Sends.of_routine (le_of_eq (contextIds_of_kind rfl rfl))
      (Xmpp.quiet_release _ xmpp).draws (emits_release _ xmpp)

/-- `PreExecute` keeps the id of its command in place of an earlier one. -/
theorem sends_preExecute (reading : Reading) (handler : CallHandler) (xmpp : Xmpp) :
    Sends handler.contextIds xmpp (handler.preExecute reading xmpp).2.1.contextIds
      (handler.preExecute reading xmpp).2.2 := by
  unfold preExecute
  cases kind : handler.kind with
  | makeCall make =>
    dsimp only
    have created := Sends.command handler.contextIds xmpp (rfl : Effect.isCallCommand
      (.create xmpp.getUniqueId.1 (Xmpp.toField (Strings.cStr handler.stateData.remoteId)
        xmpp.login.domain) (Xmpp.fromField xmpp.login) (newCallSetupId reading)) = true) rfl
    refine created.trans (Sends.of_routine ?_ (Xmpp.quiet_release _ _).draws (emits_release _ _))
    show nonzero xmpp.getUniqueId.1 + ↑handler.droppedContextIds ≤ _
    rw [contextIds, kind, add_comm]
    exact add_le_add (Multiset.le_add_left _ _) (nonzero_le _)
  | _ => exact Sends.refl _ _

theorem sends_unknownEvent (reading : Reading) (event : XmppEvent) (xmpp : Xmpp) :
    Sends 0 xmpp ((unknownEvent reading event xmpp).1.toList.map contextIds).sum
      (unknownEvent reading event xmpp).2 := by
  unfold unknownEvent
  split
  · split_ifs
    · exact Sends.of_routine (le_refl _) xmpp.quiet_getUniqueId.draws (.of_eq rfl)
    · exact Sends.of_routine (le_refl _) xmpp.quiet_getUniqueId.draws (.of_eq rfl)
    · exact Sends.refl _ _
  · exact Sends.refl _ _

/-- One call of a method of the handler, with the counts of the ids drawn before and after it -/
inductive Steps : CallHandler → Nat → CallHandler → Nat → Prop
  | isYourEvent (reading : Reading) (handler : CallHandler) (event : XmppEvent) (xmpp : Xmpp) :
      Steps handler xmpp.ids.draws (handler.isYourEvent reading event xmpp).2.1
        (handler.isYourEvent reading event xmpp).2.2.ids.draws
  | isStillExist (reading : Reading) (handler : CallHandler) (xmpp : Xmpp) :
      Steps handler xmpp.ids.draws (handler.isStillExist reading xmpp).2.1
        (handler.isStillExist reading xmpp).2.2.ids.draws
  | preExecute (reading : Reading) (handler : CallHandler) (xmpp : Xmpp) :
      Steps handler xmpp.ids.draws (handler.preExecute reading xmpp).2.1
        (handler.preExecute reading xmpp).2.2.ids.draws

/-- The handler has drawn the ids that it keeps. -/
abbrev OwnIds : CallHandler → Prop := HoldsOwn (BitVec.ofNat 32) Steps contextIds

/-- A handler that an unknown event creates keeps no id. -/
theorem ownIds_unknownEvent (reading : Reading) (event : XmppEvent) (xmpp : Xmpp) :
    ∀ handler ∈ (unknownEvent reading event xmpp).1, OwnIds handler := by
  unfold unknownEvent
  split
  · split_ifs
    · intro handler member
      obtain rfl := Option.mem_some_iff.mp member
      exact HoldsOwn.of_zero rfl
    · intro handler member
      obtain rfl := Option.mem_some_iff.mp member
      exact HoldsOwn.of_zero rfl
    · exact fun handler member => nomatch member
  · exact fun handler member => nomatch member

/-- A call handler that accepts a reply keeps its id. -/
theorem mem_contextIds_of_accepts {reading : Reading} {handler : CallHandler} {event : XmppEvent}
    {xmpp : Xmpp} (accepts : (handler.isYourEvent reading event xmpp).1 = true)
    (reply : event.data = .iqResult ∨ ∃ callSetupId, event.data = .callRequest callSetupId)
    (given : event.context ≠ 0) : event.context ∈ handler.contextIds := by
  have dropped : (handler.dropRequestOrReply reading event xmpp).1 = true →
      event.context ∈ handler.contextIds := by
    intro accepted
    unfold dropRequestOrReply checkDropRequestEvent checkIqReplyDropRequest at accepted
    rcases reply with result | ⟨callSetupId, request⟩
    · rw [result] at accepted
      dsimp only at accepted
      by_cases own : event.context ∈ handler.droppedContextIds
      · exact Multiset.mem_add.mpr (Or.inr own)
      · rw [if_neg own] at accepted
        cases accepted
    · rw [request] at accepted
      cases accepted
  unfold isYourEvent at accepts
  cases kind : handler.kind with
  | outgoing =>
    rw [kind] at accepts
    rcases reply with result | ⟨callSetupId, request⟩
    · simp only [outgoingIsYourEvent, result] at accepts
      exact dropped accepts
    · simp only [outgoingIsYourEvent, request] at accepts
      exact dropped accepts
  | incoming =>
    rw [kind] at accepts
    rcases reply with result | ⟨callSetupId, request⟩
    · simp only [incomingIsYourEvent, result] at accepts
      exact dropped accepts
    · simp only [incomingIsYourEvent, request] at accepts
      exact dropped accepts
  | makeCall make =>
    rw [kind] at accepts
    rcases reply with result | ⟨callSetupId, request⟩
    · simp only [makeCallIsYourEvent, result] at accepts
      exact dropped accepts
    · simp only [makeCallIsYourEvent, request] at accepts
      by_cases own : make.contextId = event.context
      · rw [contextIds, kind]
        dsimp only
        rw [own]
        exact Multiset.mem_add.mpr (Or.inl (mem_nonzero given))
      · rw [if_neg own] at accepts
        cases accepts

end CallHandler

open CallHandler in
/-- A handler of the call machine keeps no other ids than those that it has drawn itself. -/
theorem callVirtuals_own : callVirtuals.Carries fun before after =>
    (∀ handler ∈ before.1, OwnIds handler) → ∀ handler ∈ after.1, OwnIds handler :=
  Virtuals.carries_forall
    (fun reading handler event xmpp own =>
      own.step (.isYourEvent reading handler event xmpp)
        (sends_isYourEvent reading handler event xmpp).held)
    (fun reading handler xmpp own =>
      own.step (.isStillExist reading handler xmpp) (sends_isStillExist reading handler xmpp).held)
    (fun _ _ _ own => own) ownIds_unknownEvent
    (fun reading handler xmpp own =>
      own.step (.preExecute reading handler xmpp) (sends_preExecute reading handler xmpp).held)

/-- Every call of the call machine keeps the ids of the commands that it sends. -/
theorem callVirtuals_sends : callVirtuals.Carries fun before after =>
    Sends (before.1.map CallHandler.contextIds).sum before.2
      (after.1.map CallHandler.contextIds).sum after.2 where
  refl pair := Sends.refl _ _
  trans := Sends.trans
  beside left right sends := by
    rw [sum_map_around, sum_map_around]
    exact sends.add _
  isYourEvent reading handler event xmpp := by
    simp only [List.map_singleton, List.sum_singleton]
    exact handler.sends_isYourEvent reading event xmpp
  isStillExist reading handler xmpp := by
    simp only [List.map_singleton, List.sum_singleton]
    exact handler.sends_isStillExist reading xmpp
  pollStateHandler _ _ _ := Sends.refl _ _
  unknownEvent reading event xmpp := CallHandler.sends_unknownEvent reading event xmpp
  onStateChange handler reason xmpp :=
    Sends.of_routine (le_refl _) (le_refl _) (CallHandler.emits_onStateChange handler reason xmpp)
  preExecute reading handler xmpp := by
    simp only [List.map_singleton, List.sum_singleton]
    exact handler.sends_preExecute reading xmpp
  deleteEvent event xmpp :=
    Sends.of_routine (le_refl _) (le_refl _) (Xmpp.Emits.emit (.deleted event) xmpp)
  deleteHandler handler xmpp :=
    Sends.of_routine (Multiset.zero_le _) (Xmpp.quiet_release _ xmpp).draws
      (CallHandler.emits_release _ xmpp)

/-! ### The call machine and its threads -/

namespace CallSystem

/-- The handlers in the machine, and those that wait for it -/
def callHandlers (system : CallSystem) : List CallHandler :=
  system.stateHandlers ++ (system.polling.pendingRequests ++ system.machine.handlerRequests)

/-- What the methods carry on, what a drawn id leaves and what a new handler of `MakeCallAsync`
brings, a step of the system carries on. -/
theorem carries_step {carries : List CallHandler × Xmpp → List CallHandler × Xmpp → Prop}
    (frame : callVirtuals.Carries carries)
    (draws : ∀ xmpp : Xmpp, carries ([], xmpp) ([], xmpp.getUniqueId.2))
    (new : ∀ reading toDial callId xmpp,
      carries ([], xmpp) ([CallHandler.newMakeCall reading toDial callId], xmpp))
    {system next : CallSystem} {action : CallAction} (stepped : system.step action = some next) :
    carries (system.callHandlers, system.xmpp) (next.callHandlers, next.xmpp) := by
  have signalled : ∀ readings event deleteEventData,
      carries (system.callHandlers, system.xmpp)
        ((system.signal readings event deleteEventData).callHandlers,
          (system.signal readings event deleteEventData).xmpp) := by
    intro readings event deleteEventData
    exact frame.front (frame.signalEvent readings event deleteEventData _ _) _
  have thread : ∀ polling : Polling, polling.pendingRequests = system.polling.pendingRequests →
      carries (system.callHandlers, system.xmpp)
        (({ system with polling := polling } : CallSystem).callHandlers, system.xmpp) := by
    intro polling same
    unfold callHandlers
    rw [same]
    exact frame.refl _
  cases action with
  | drawId =>
    obtain rfl := Option.some.inj stepped
    exact frame.object (draws system.xmpp) _
  | drawCallId phoneNumber =>
    obtain rfl := Option.some.inj stepped
    exact frame.object (draws system.xmpp) _
  | addCallHandler index reading =>
    obtain ⟨callId, phoneNumber, -, rfl⟩ := step_addCallHandler.mp stepped
    have added := frame.beside system.callHandlers [] (new reading phoneNumber callId system.xmpp)
    simp only [List.append_nil] at added
    unfold callHandlers at added ⊢
    simp only [List.append_assoc] at added ⊢
    exact added
  | dropCallAsync callId =>
    obtain rfl := Option.some.inj stepped
    exact frame.refl _
  | addEvent event =>
    obtain rfl := Option.some.inj stepped
    exact frame.refl _
  | signalEvent readings event deleteEventData =>
    obtain ⟨-, rfl⟩ := step_signalEvent.mp stepped
    exact signalled readings event deleteEventData
  | testRequests =>
    obtain ⟨polling, rfl, pending, -⟩ := step_tests stepped (Or.inl rfl)
    exact thread polling pending
  | takeRequests =>
    obtain ⟨seen, rfl⟩ := step_takeRequests.mp stepped
    have same : system.callHandlers = system.stateHandlers ++ system.machine.handlerRequests := by
      unfold callHandlers
      rw [seen]
      rfl
    rw [same]
    show carries _ (system.stateHandlers ++ (system.machine.handlerRequests ++ []), system.xmpp)
    rw [List.append_nil]
    exact frame.refl _
  | handleRequest readings =>
    obtain ⟨request, rest, pending, rfl⟩ := step_handleRequest.mp stepped
    have same : system.callHandlers =
        (system.stateHandlers ++ [request]) ++ (rest ++ system.machine.handlerRequests) := by
      unfold callHandlers
      rw [pending, List.append_assoc]
      rfl
    rw [same]
    exact frame.front (frame.handleRequest readings request system.stateHandlers system.xmpp) _
  | testEvents =>
    obtain ⟨polling, rfl, pending, -⟩ := step_tests stepped (Or.inr rfl)
    exact thread polling pending
  | takeEvents =>
    obtain ⟨seen, rfl⟩ := step_takeEvents.mp stepped
    have same : system.callHandlers = system.stateHandlers ++ system.machine.handlerRequests := by
      unfold callHandlers
      rw [seen]
      rfl
    rw [same]
    exact frame.refl _
  | signalNext readings =>
    obtain ⟨event, rest, pending, rfl⟩ := step_signalNext.mp stepped
    have carried := signalled readings event true
    unfold callHandlers at carried ⊢
    simp only [signal, withHandlers, pending] at carried ⊢
    exact carried
  | pollHandlers readings =>
    obtain ⟨pending, rfl⟩ := step_pollHandlers.mp stepped
    have carried := frame.front (frame.pollStateHandlers readings system.stateHandlers
      system.xmpp) system.machine.handlerRequests
    unfold callHandlers
    rw [pending]
    exact carried
  | removeStateHandlers =>
    obtain ⟨-, rfl⟩ := step_removeStateHandlers.mp stepped
    exact frame.front (frame.removeStateHandlers system.stateHandlers system.xmpp) _

end CallSystem

/-! ### The object -/

namespace OnSipXmpp

/-- The ids that the handlers of both machines keep -/
def contextIds (object : OnSipXmpp) : Multiset Long :=
  (object.drivers.map InitStateHandler.contextIds).sum +
    (object.calls.callHandlers.map CallHandler.contextIds).sum

/-- The handlers keep ids that have been given out to them, each to one handler. -/
structure Answerable (object : OnSipXmpp) : Prop where
  given : (object.drivers.map InitStateHandler.contextIds).sum + object.xmpp.callContextIds ≤
    issued (BitVec.ofNat 32) 0 object.xmpp.ids.draws
  sent : (object.calls.callHandlers.map CallHandler.contextIds).sum ≤ object.xmpp.callContextIds
  ownLogin : ∀ handler ∈ object.drivers, handler.OwnIds
  ownCalls : ∀ handler ∈ object.calls.callHandlers, handler.OwnIds

theorem answerable_new (reading : Reading) : (new reading).Answerable where
  given := le_refl _
  sent := le_refl _
  ownLogin _ member := absurd member List.not_mem_nil
  ownCalls _ member := absurd member List.not_mem_nil

/-- The login machine and its object go on. -/
abbrev LoginGoesOn (before after : List InitStateHandler × Xmpp) : Prop :=
  (Issues (BitVec.ofNat 32) (before.1.map InitStateHandler.contextIds).sum before.2.ids.draws
      (after.1.map InitStateHandler.contextIds).sum after.2.ids.draws ∧
    ((∀ handler ∈ before.1, handler.OwnIds) → ∀ handler ∈ after.1, handler.OwnIds)) ∧
  after.2.callContextIds = before.2.callContextIds

/-- The call machine and its object go on. -/
abbrev CallsGoOn (before after : List CallHandler × Xmpp) : Prop :=
  Sends (before.1.map CallHandler.contextIds).sum before.2
      (after.1.map CallHandler.contextIds).sum after.2 ∧
    ((∀ handler ∈ before.1, handler.OwnIds) → ∀ handler ∈ after.1, handler.OwnIds)

/-- The login machine sends no command of a call. -/
theorem initVirtuals_goesOn : initVirtuals.Carries LoginGoesOn := by
  have commands : initVirtuals.Changes fun before after =>
      after.callContextIds = before.callContextIds := by
    refine initVirtuals_changes (fun left right => right.trans left) ?_ ?_
    · intro before after loginOnly
      exact loginOnly.emits.callContextIds_eq fun _ apart => apart
    · intro notification xmpp
      have notified : xmpp.Emits (fun effect => effect.isCallCommand = false)
          (xmpp.initStateChange notification) :=
        ⟨_, rfl, fun effect member => List.mem_singleton.mp member ▸ rfl⟩
      exact notified.callContextIds_eq fun _ apart => apart
  exact (initVirtuals_issues.and initVirtuals_own).and commands.carries

theorem callVirtuals_goesOn : callVirtuals.Carries CallsGoOn :=
  callVirtuals_sends.and callVirtuals_own

theorem Answerable.login {object next : OnSipXmpp} (answerable : object.Answerable)
    (goesOn : LoginGoesOn (object.drivers, object.xmpp) (next.drivers, next.xmpp))
    (same : next.calls.callHandlers = object.calls.callHandlers) : next.Answerable := by
  obtain ⟨⟨issues, own⟩, commands⟩ := goesOn
  refine ⟨?_, ?_, own answerable.ownLogin, same ▸ answerable.ownCalls⟩
  · rw [commands]
    exact (issues.add object.xmpp.callContextIds).within answerable.given (Nat.zero_le _)
  · rw [same, commands]
    exact answerable.sent

theorem Answerable.calls {object next : OnSipXmpp} (answerable : object.Answerable)
    (goesOn : CallsGoOn (object.calls.callHandlers, object.xmpp)
      (next.calls.callHandlers, next.xmpp))
    (same : next.drivers = object.drivers) : next.Answerable := by
  obtain ⟨sends, own⟩ := goesOn
  refine ⟨?_, ?_, same ▸ answerable.ownLogin, own answerable.ownCalls⟩
  · have issues := sends.issues.add (object.drivers.map InitStateHandler.contextIds).sum
    rw [same, add_comm]
    refine issues.within ?_ (Nat.zero_le _)
    rw [add_comm]
    exact answerable.given
  · refine le_of_add_le_add_right (a := object.xmpp.callContextIds) ?_
    calc (next.calls.callHandlers.map CallHandler.contextIds).sum + object.xmpp.callContextIds
        ≤ (object.calls.callHandlers.map CallHandler.contextIds).sum + next.xmpp.callContextIds :=
          sends.keeps
      _ ≤ object.xmpp.callContextIds + next.xmpp.callContextIds :=
          add_le_add_left answerable.sent _
      _ = next.xmpp.callContextIds + object.xmpp.callContextIds := add_comm _ _

/-- A method of its worker leaves the ids of a handler. -/
theorem goesOn_worker {before after : InitStateHandler} (xmpp : Xmpp)
    (same : after.contextIds = before.contextIds)
    (step : InitStateHandler.Steps before xmpp.ids.draws after xmpp.ids.draws) :
    LoginGoesOn ([before], xmpp) ([after], xmpp) := by
  refine ⟨⟨Issues.of_le (le_of_eq ?_) (le_refl _), ?_⟩, rfl⟩
  · rw [List.map_singleton, List.map_singleton, same]
  · intro own handler member
    obtain rfl := List.mem_singleton.mp member
    exact (own before List.mem_cons_self).step step (Issues.of_le (le_of_eq same) (le_refl _))

/-- The handlers in the login machine go on, and those in its queue wait. -/
theorem Answerable.listed {object : OnSipXmpp} (answerable : object.Answerable)
    {next : List InitStateHandler × Xmpp}
    (goesOn : LoginGoesOn (object.initStateMachine.stateHandlers, object.xmpp) next) :
    (object.withInit
      ({ object.initStateMachine with stateHandlers := next.1 }, next.2)).Answerable :=
  answerable.login (initVirtuals_goesOn.front goesOn object.initStateMachine.handlerRequests) rfl

theorem answerable_workerReply {object : OnSipXmpp} (answerable : object.Answerable) (index : Nat)
    (event : Option XmppEvent) : (object.workerReply index event).Answerable := by
  have replied : ∀ (handlers : List InitStateHandler) (index : Nat),
      LoginGoesOn (handlers, object.xmpp)
        (handlers.modify index (·.handleIqID event), object.xmpp) := by
    intro handlers
    induction handlers with
    | nil =>
      intro index
      rw [List.modify_nil]
      exact initVirtuals_goesOn.refl _
    | cons handler rest inductionHypothesis =>
      intro index
      cases index with
      | zero =>
        have first : LoginGoesOn ([handler], object.xmpp)
            ([handler.handleIqID event], object.xmpp) :=
          goesOn_worker object.xmpp rfl (.handleIqID event handler object.xmpp.ids.draws)
        exact initVirtuals_goesOn.front first rest
      | succ index => exact initVirtuals_goesOn.tail (inductionHypothesis index) handler
  exact answerable.listed (replied object.initStateMachine.stateHandlers index)

theorem answerable_workerMessage {object : OnSipXmpp} (answerable : object.Answerable)
    (event : XmppEvent) : (object.workerMessage event).Answerable := by
  have seen : ∀ handlers : List InitStateHandler, LoginGoesOn (handlers, object.xmpp)
      (handlers.map (·.handleMessage event), object.xmpp) := by
    intro handlers
    induction handlers with
    | nil => exact initVirtuals_goesOn.refl _
    | cons handler rest inductionHypothesis =>
      have first : LoginGoesOn ([handler], object.xmpp)
          ([handler.handleMessage event], object.xmpp) :=
        goesOn_worker object.xmpp rfl (.handleMessage event handler object.xmpp.ids.draws)
      exact initVirtuals_goesOn.trans (initVirtuals_goesOn.front first rest)
        (initVirtuals_goesOn.tail inductionHypothesis _)
  exact answerable.listed (seen object.initStateMachine.stateHandlers)

/-- The call machine answers an event, or deletes it. -/
theorem answerable_signalCalls {object : OnSipXmpp} (answerable : object.Answerable)
    (readings : Readings) (event : XmppEvent) : (object.signalCalls readings event).Answerable := by
  have signalled := callVirtuals_goesOn.signalEvent readings event false
    object.calls.stateHandlers object.xmpp
  unfold signalCalls
  split
  case h_1 next outcome =>
    rw [outcome] at signalled
    exact answerable.calls (callVirtuals_goesOn.front signalled _) rfl
  case h_2 handlers xmpp outcome =>
    rw [outcome] at signalled
    have deleted := callVirtuals_goesOn.trans signalled
      (callVirtuals_goesOn.object (callVirtuals_goesOn.deleteEvent event xmpp) handlers)
    exact answerable.calls (callVirtuals_goesOn.front deleted _) rfl

theorem answerable_signalEvent {object : OnSipXmpp} (answerable : object.Answerable)
    (initReadings callReadings : Readings) (event : XmppEvent) :
    (object.signalEvent initReadings callReadings event).Answerable := by
  have listed := answerable.listed (initVirtuals_goesOn.signalEvent initReadings event false
    object.initStateMachine.stateHandlers object.xmpp)
  rcases object.signalEvent_cases initReadings callReadings event with
    ⟨-, result⟩ | ⟨-, result⟩
  · rw [result]
    exact listed
  · rw [result]
    exact answerable_signalCalls listed callReadings event

theorem answerable_removeStateHandlers {object : OnSipXmpp} (answerable : object.Answerable) :
    object.removeStateHandlers.Answerable := by
  have listed := answerable.listed (initVirtuals_goesOn.removeStateHandlers
    object.initStateMachine.stateHandlers object.xmpp)
  refine listed.calls (callVirtuals_goesOn.front (callVirtuals_goesOn.removeStateHandlers
    object.calls.stateHandlers _)
    (object.calls.polling.pendingRequests ++ object.calls.machine.handlerRequests)) rfl

/-- A new handler of the login keeps no id. -/
theorem answerable_start {object : OnSipXmpp} (answerable : object.Answerable) (reading : Reading)
    (loginInfo : LoginInfo) : (object.start reading loginInfo).Answerable := by
  have removed := answerable_removeStateHandlers answerable
  have started : LoginGoesOn (object.removeStateHandlers.drivers, object.removeStateHandlers.xmpp)
      (object.removeStateHandlers.drivers ++ [InitStateHandler.new reading],
        { object.removeStateHandlers.xmpp with login := loginInfo }) := by
    refine ⟨⟨Issues.of_le (le_of_eq ?_) (le_refl _), ?_⟩, rfl⟩
    · rw [List.map_append, List.sum_append]
      exact add_zero _
    · intro own handler member
      rcases List.mem_append.mp member with earlier | last
      · exact own handler earlier
      · rw [List.mem_singleton.mp last]
        exact HoldsOwn.of_zero rfl
  exact removed.login started rfl

/-- Every step leaves the object answerable. -/
theorem answerable_step {object next : OnSipXmpp} {action : Action}
    (stepped : object.step action = some next) (answerable : object.Answerable) :
    next.Answerable := by
  cases action with
  | call action =>
    obtain ⟨-, calls, called, rfl⟩ := step_call.mp stepped
    refine answerable.calls (CallSystem.carries_step callVirtuals_goesOn ?_ ?_ called) rfl
    · exact fun xmpp => ⟨Sends.of_routine (le_refl _) xmpp.quiet_getUniqueId.draws (.of_eq rfl), id⟩
    · intro created toDial callId xmpp
      refine ⟨Sends.refl _ _, fun _ handler member => ?_⟩
      obtain rfl := List.mem_singleton.mp member
      exact HoldsOwn.of_zero rfl
  | pollInit readings =>
    obtain ⟨-, rfl⟩ := whenIdle_eq_some.mp stepped
    exact answerable.login
      (initVirtuals_goesOn.pollMachine readings object.initStateMachine object.xmpp) rfl
  | resetConnectLoop reading =>
    obtain ⟨-, rfl⟩ := whenIdle_eq_some.mp stepped
    exact ⟨answerable.given, answerable.sent, answerable.ownLogin, answerable.ownCalls⟩
  | signal initReadings callReadings event =>
    obtain ⟨-, rfl⟩ := whenIdle_eq_some.mp stepped
    exact answerable_signalEvent answerable initReadings callReadings event
  | workerReply index event =>
    obtain ⟨-, rfl⟩ := whenIdle_eq_some.mp stepped
    exact answerable_workerReply answerable index event
  | workerMessage event =>
    obtain ⟨-, rfl⟩ := whenIdle_eq_some.mp stepped
    exact answerable_workerMessage answerable event
  | start reading loginInfo =>
    obtain ⟨-, rfl⟩ := whenIdle_eq_some.mp stepped
    exact answerable_start answerable reading loginInfo
  | asyncShutdown =>
    obtain ⟨-, rfl⟩ := whenIdle_eq_some.mp stepped
    exact ⟨answerable.given, answerable.sent, answerable.ownLogin, answerable.ownCalls⟩
  | cleanup =>
    obtain ⟨-, rfl⟩ := whenIdle_eq_some.mp stepped
    exact answerable_removeStateHandlers answerable
  | getInitEvents =>
    obtain ⟨-, rfl⟩ := whenIdle_eq_some.mp stepped
    exact ⟨answerable.given, answerable.sent, answerable.ownLogin, answerable.ownCalls⟩
  | getCallEvents =>
    obtain ⟨-, rfl⟩ := whenIdle_eq_some.mp stepped
    exact ⟨answerable.given, answerable.sent, answerable.ownLogin, answerable.ownCalls⟩

theorem answerable_of_run {reading : Reading} {actions : List Action} {object : OnSipXmpp}
    (reached : run step actions (new reading) = some object) : object.Answerable :=
  run_invariant (fun _ _ _ stepped answerable => answerable_step stepped answerable) reached
    (answerable_new reading)

/-! ### Who accepts a reply -/

/-- The handlers in the two machines -/
def handlers (object : OnSipXmpp) : List (InitStateHandler ⊕ CallHandler) :=
  object.initStateMachine.stateHandlers.map .inl ++ object.calls.stateHandlers.map .inr

/-- The ids that a handler of one of the machines keeps -/
def heldBy : InitStateHandler ⊕ CallHandler → Multiset Long :=
  Sum.elim InitStateHandler.contextIds CallHandler.contextIds

/-- A handler of one of the machines accepts the event. -/
def accepts (reading : Reading) (event : XmppEvent) (xmpp : Xmpp) :
    InitStateHandler ⊕ CallHandler → Bool
  | .inl handler => (handler.isYourEvent reading event xmpp).1
  | .inr handler => (handler.isYourEvent reading event xmpp).1

/-- A handler of one of the machines has drawn the id in one of its own methods. -/
def Drew (contextId : Long) : InitStateHandler ⊕ CallHandler → Prop
  | .inl handler => Drawn (BitVec.ofNat 32) InitStateHandler.Steps contextId handler
  | .inr handler => Drawn (BitVec.ofNat 32) CallHandler.Steps contextId handler

theorem heldBy_handlers (object : OnSipXmpp) :
    (object.handlers.map heldBy).sum ≤ object.contextIds := by
  have login : (object.initStateMachine.stateHandlers.map InitStateHandler.contextIds).sum ≤
      (object.drivers.map InitStateHandler.contextIds).sum := by
    rw [drivers, List.map_append, List.sum_append]
    exact Multiset.le_add_right _ _
  have calls : (object.calls.stateHandlers.map CallHandler.contextIds).sum ≤
      (object.calls.callHandlers.map CallHandler.contextIds).sum := by
    rw [CallSystem.callHandlers, List.map_append, List.sum_append]
    exact Multiset.le_add_right _ _
  rw [handlers, List.map_append, List.sum_append, List.map_map, List.map_map]
  exact add_le_add login calls

/-- Before the generator wraps, its ids are distinct. -/
theorem nodup_issued_long {draws : Nat} (few : draws < 2 ^ 31) :
    (issued (BitVec.ofNat 32) 0 draws).Nodup := by
  refine nodup_issued ?_
  intro left leftInside right rightInside same
  have values := congrArg BitVec.toNat same
  simp only [BitVec.toNat_ofNat] at values
  have leftSmall := leftInside.2
  have rightSmall := rightInside.2
  omega

/-- The ids that the handlers keep and those of the commands of calls are distinct. -/
theorem Answerable.nodup {object : OnSipXmpp} (answerable : object.Answerable)
    (few : object.xmpp.ids.draws < 2 ^ 31) :
    ((object.drivers.map InitStateHandler.contextIds).sum + object.xmpp.callContextIds).Nodup :=
  Multiset.nodup_of_le answerable.given (nodup_issued_long few)

theorem Answerable.nodup_contextIds {object : OnSipXmpp} (answerable : object.Answerable)
    (few : object.xmpp.ids.draws < 2 ^ 31) : object.contextIds.Nodup :=
  Multiset.nodup_of_le (add_le_add_right answerable.sent _) (answerable.nodup few)

/-- A handler that accepts a reply keeps its id, and has drawn it. -/
theorem Answerable.accepts {object : OnSipXmpp} (answerable : object.Answerable)
    {reading : Reading} {event : XmppEvent} {xmpp : Xmpp}
    {handler : InitStateHandler ⊕ CallHandler} (member : handler ∈ object.handlers)
    (accepted : accepts reading event xmpp handler = true)
    (reply : event.data = .iqResult ∨ ∃ callSetupId, event.data = .callRequest callSetupId)
    (given : event.context ≠ 0) : event.context ∈ heldBy handler ∧ Drew event.context handler := by
  rcases List.mem_append.mp member with login | call
  · obtain ⟨driver, inside, rfl⟩ := List.mem_map.mp login
    have held := InitStateHandler.mem_contextIds_of_accepts accepted reply given
    exact ⟨held, answerable.ownLogin driver (List.mem_append_left _ inside) _ held⟩
  · obtain ⟨callHandler, inside, rfl⟩ := List.mem_map.mp call
    have held := CallHandler.mem_contextIds_of_accepts accepted reply given
    exact ⟨held, answerable.ownCalls callHandler (List.mem_append_left _ inside) _ held⟩

/-- Before the generator has wrapped, all ids that handlers keep are distinct, and a reply is
accepted by one handler at most: by the one that keeps its id and has drawn it itself. The reply to
a command of a call is accepted by no handler of the login. -/
theorem reply_accepted_by_issuer {reading : Reading} {actions : List Action} {object : OnSipXmpp}
    (reached : run step actions (new reading) = some object)
    (few : object.xmpp.ids.draws < 2 ^ 31) :
    object.contextIds.Nodup ∧
    ∀ iq context event, XmppEventFactory.iqFactory iq context = .ok (some event) → context ≠ 0 →
      (∀ expireDate, event.data ≠ .auth expireDate) →
      ∀ offered : InitStateHandler ⊕ CallHandler → Reading × Xmpp,
        (object.handlers.filter fun handler =>
          accepts (offered handler).1 event (offered handler).2 handler).length ≤ 1 ∧
        ∀ handler ∈ object.handlers,
          accepts (offered handler).1 event (offered handler).2 handler = true →
            context ∈ heldBy handler ∧ Drew context handler ∧
              (context ∈ object.xmpp.callContextIds → ∃ call, handler = .inr call) := by
  have answerable := answerable_of_run reached
  have distinct := answerable.nodup_contextIds few
  refine ⟨distinct, ?_⟩
  intro iq context event made given notAuth offered
  obtain ⟨rfl, reply⟩ := XmppEventFactory.iqFactory_data made notAuth
  have held : ∀ handler ∈ object.handlers,
      accepts (offered handler).1 event (offered handler).2 handler = true →
      event.context ∈ heldBy handler ∧ Drew event.context handler :=
    fun handler member accepted => answerable.accepts member accepted reply given
  refine ⟨?_, fun handler member accepted => ?_⟩
  · exact length_filter_le_one (Multiset.nodup_of_le object.heldBy_handlers distinct)
      fun handler member accepted => (held handler member accepted).1
  · obtain ⟨holds, drew⟩ := held handler member accepted
    refine ⟨holds, drew, fun command => ?_⟩
    cases handler with
    | inr call => exact ⟨call, rfl⟩
    | inl driver =>
      -- The id would be one of a command of a call and one of a handler of the login.
      obtain ⟨_, inside, same⟩ : ∃ other ∈ object.initStateMachine.stateHandlers,
          Sum.inl other = (Sum.inl driver : InitStateHandler ⊕ CallHandler) := by
        rcases List.mem_append.mp member with login | calls
        · exact List.mem_map.mp login
        · obtain ⟨_, _, other⟩ := List.mem_map.mp calls
          cases other
      obtain rfl := Sum.inl.inj same
      have kept : event.context ∈ (object.drivers.map InitStateHandler.contextIds).sum :=
        Multiset.mem_of_le (List.le_sum_of_mem
          (List.mem_map_of_mem (List.mem_append_left _ inside))) holds
      exact absurd command (Multiset.disjoint_left.mp
        (Multiset.nodup_add.mp (answerable.nodup few)).2.2 kept)

end OnSipXmpp

/-- After a login the program makes a call. -/
def Example.logInAndMake : List OnSipXmpp.Action :=
  Example.logIn ++ [.call (.drawCallId "555".toList), .call (.addCallHandler 0 (Example.reading 400))]
    ++ (Example.pollOneRequest 500).map OnSipXmpp.Action.call

/-- The server refuses the call. -/
def Example.refusal : IQ :=
  ⟨.error, [], onsipActiveCallsCommand, true, some ⟨"create".toList, some ⟨[]⟩⟩⟩

open OnSipXmpp in
/-- The call that the program has made accepts the refusal, and the login does not. -/
theorem reply_accepted_by_issuer_refusal : ∃ object,
    run step Example.logInAndMake (OnSipXmpp.new (Example.reading 0)) = some object ∧
    object.contextIds.Nodup ∧
    ∃ event call, XmppEventFactory.iqFactory Example.refusal 3 = .ok (some event) ∧
      object.handlers.filter (accepts (Example.reading 510) event (Xmpp.new Example.login)) =
        [.inr call] ∧
      Drew 3 (.inr call) := by
  have reached : run step Example.logInAndMake (OnSipXmpp.new (Example.reading 0)) = some _ := rfl
  obtain ⟨distinct, replies⟩ := reply_accepted_by_issuer reached (by decide)
  have made : XmppEventFactory.iqFactory Example.refusal 3 = .ok (some _) := rfl
  obtain ⟨-, accepted⟩ := replies Example.refusal 3 _ made (by decide)
    (fun _ same => nomatch same) fun _ => (Example.reading 510, Xmpp.new Example.login)
  refine ⟨_, reached, distinct, _, _, made, rfl, ?_⟩
  exact (accepted _ (List.mem_cons_of_mem _ List.mem_cons_self) rfl).2.1

end JnTapi
