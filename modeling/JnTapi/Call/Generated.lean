/-
This file proves what the handler of a call that the program makes keeps, and which
retract ends the call.

The state data and the branches keep the call id, the type and the call setup id of
the request, so that the events of the call still reach the handler. The id `-1`
stands for no id and does not reach the branches. The call is meant to end with its
outbound leg, but the leg is a branch as well: its retract only removes the branch
while there are others.
-/

import JnTapi.Call.BranchIds
import JnTapi.Call.SetupIds

namespace JnTapi

open Library

namespace CallHandler

/-! ### The identity of the call -/

/-- The data are those of the call that the program makes with these ids. -/
structure OfRequest (callId : Long) (setup : TString) (data : OnSipCallStateData) : Prop where
  callId : data.callId = callId
  callType : data.callType = .makeCall
  callSetupId : data.callSetupId = setup

/-- The handler is that of the call which the program makes with these ids and this request. -/
structure Generated (callId : Long) (setup : TString) (make : MakeCallData)
    (handler : CallHandler) : Prop where
  making : handler.Making setup make
  sound : handler.Sound
  callId : handler.callId = callId
  callType : handler.stateData.callType = .makeCall

section generated

variable {callId : Long} {setup : TString} {make : MakeCallData} {handler : CallHandler}

theorem Generated.of_keeps {next : CallHandler} (generated : handler.Generated callId setup make)
    (making : next.Making setup make) (keeps : handler.Keeps next) :
    next.Generated callId setup make := by
  obtain ⟨sound, sameId, sameType⟩ := keeps generated.sound
  exact ⟨making, sound, sameId.trans generated.callId, sameType.trans generated.callType⟩

/-- No event and no check changes the identity of the call. -/
theorem Generated.moved (generated : handler.Generated callId setup make)
    (printable : Strings.cStr setup = setup) (next : Move) :
    (handler.moved next).Generated callId setup make := by
  refine generated.of_keeps (generated.making.moved printable next).1 ?_
  cases next with
  | event reading given xmpp => exact (continues_isYourEvent reading handler given xmpp).1
  | check reading xmpp =>
    unfold CallHandler.moved
    rcases isStillExist_cases reading handler xmpp with same | ⟨-, lapsed⟩
    · simp only [same]
      exact Keeps.refl handler
    · simp only [lapsed]
      exact keeps_timedOut reading handler

theorem Generated.run {moves : List Move} {last : CallHandler}
    (generated : handler.Generated callId setup make) (printable : Strings.cStr setup = setup)
    (reached : Library.run move moves handler = some last) :
    last.Generated callId setup make := by
  refine run_invariant ?_ reached generated
  intro handler next _ stepped before
  obtain rfl := Option.some.inj stepped
  exact before.moved printable next

theorem Generated.each (generated : handler.Generated callId setup make) :
    handler.Each (OfRequest callId setup) := by
  refine ⟨⟨generated.callId, generated.callType, generated.making.each.current⟩, ?_⟩
  intro branch member
  exact ⟨(generated.sound.branchCallId branch member).trans generated.callId,
    (generated.sound.branchCallType branch member).trans generated.callType,
    generated.making.each.branch branch member⟩

/-- An event of the call reaches its handler. -/
theorem Generated.accepts (generated : handler.Generated callId setup make)
    (given : setup ≠ []) (reading : Reading) {event : XmppEvent} {ace : ActiveCall}
    (isCall : event.data = .activeCall ace) (same : ace.callSetupId = setup)
    (matches_ : matchSips make ace = true) (xmpp : Xmpp) :
    (handler.isYourEvent reading event xmpp).1 = true := by
  obtain ⟨data, kind, request⟩ := generated.making.kind
  have ours : handler.stateData.sameCallSetupId ace.callSetupId = true := by
    rw [OnSipCallStateData.sameCallSetupId, generated.making.each.current, same]
    simp [given]
  have sips : matchSips data ace = true := by
    rw [matchSips, request.toSipField, request.fromSipField]
    exact matches_
  unfold isYourEvent
  rw [kind]
  simp only [makeCallIsYourEvent, isCall, ours, sips, Bool.not_true, Bool.or_self,
    Bool.false_eq_true, if_false]
  split_ifs
  · rfl
  · exact makeCallActiveCall_accepts _ _ _ _ _ _

end generated

/-- `PreExecute` of a new handler with a real call id gives it the identity of its call. -/
theorem generated_preExecute (created reading : Reading) (toDial : TString) {callId : Long}
    (given : callId ≠ -1) (xmpp : Xmpp) : ∃ make,
      ((newMakeCall created toDial callId).preExecute reading xmpp).2.1.kind = .makeCall make ∧
      ((newMakeCall created toDial callId).preExecute reading xmpp).2.1.Generated callId
        (newCallSetupId reading) make := by
  have making := making_preExecute created reading toDial callId xmpp
  obtain ⟨sound, -, -⟩ := (continues_preExecute reading (newMakeCall created toDial callId) xmpp).1
    (sound_newMakeCall created toDial given)
  exact ⟨_, rfl, making, sound, rfl, rfl⟩

/-- The call setup id of a request is not empty. -/
theorem newCallSetupId_ne_nil (reading : Reading) : newCallSetupId reading ≠ [] := by
  by_cases small : -10 ^ 7 < reading.clock.toInt ∧ reading.clock.toInt < 0
  · rw [newCallSetupId_of_small small]
    exact List.cons_ne_nil _ _
  · obtain ⟨-, length, -⟩ := newCallSetupId_of_large small
    intro empty
    rw [empty] at length
    cases length

/-- A call that the program makes with a real call id keeps its identity: whatever events and checks
its handler is given after `PreExecute`, the state data and every branch have the call id, the type
and the call setup id of the request, the ids of the branches are distinct, and the handler accepts
the active-call events with this call setup id and with a To or From field of the request. -/
theorem generated_keeps_identity (created reading : Reading) (toDial : TString) {callId : Long}
    (given : callId ≠ -1) (xmpp : Xmpp) {moves : List Move} {handler : CallHandler}
    (reached : run move moves ((newMakeCall created toDial callId).preExecute reading xmpp).2.1 =
      some handler) :
    handler.Each (OfRequest callId (newCallSetupId reading)) ∧
    (handler.branches.branches.map OnSipCallStateData.id).Nodup ∧
    ∃ make, ((newMakeCall created toDial callId).preExecute reading xmpp).2.1.kind =
        .makeCall make ∧
      ∀ offered event ace object, event.data = .activeCall ace →
        ace.callSetupId = newCallSetupId reading → matchSips make ace = true →
        (handler.isYourEvent offered event object).1 = true := by
  obtain ⟨make, kind, generated⟩ := generated_preExecute created reading toDial given xmpp
  have keeps := generated.run (cStr_newCallSetupId reading) reached
  refine ⟨keeps.each, handler.branches.distinct, make, kind, ?_⟩
  intro offered event ace object isCall same sips
  exact keeps.accepts (newCallSetupId_ne_nil reading) offered isCall same sips object

/-- The user's own phone rings and is answered, and the call to 123 is created. -/
theorem generated_keeps_identity_answered :
    let given := fun (tick : Nat) (event : XmppEvent) =>
      Move.event (Example.reading tick) event (Xmpp.new Example.login)
    ∃ handler, run move [given 1 (Example.firstLeg "a" .requested),
        given 2 (Example.firstLeg "b" .requested), given 3 (Example.firstLeg "a" .confirmed),
        given 4 (Example.retract "b")]
        ((newMakeCall (Example.reading 0) "123".toList 1).preExecute (Example.reading 0)
          (Xmpp.new Example.login)).2.1 = some handler ∧
      handler.state = .makeCallRequestedAnswered ∧
      handler.Each (OfRequest 1 (newCallSetupId (Example.reading 0))) := by
  intro given
  have reached : run move [given 1 (Example.firstLeg "a" .requested),
      given 2 (Example.firstLeg "b" .requested), given 3 (Example.firstLeg "a" .confirmed),
      given 4 (Example.retract "b")]
      ((newMakeCall (Example.reading 0) "123".toList 1).preExecute (Example.reading 0)
        (Xmpp.new Example.login)).2.1 = some _ := rfl
  exact ⟨_, reached, by decide,
    (generated_keeps_identity (Example.reading 0) (Example.reading 0) "123".toList
      (by decide : (1 : Long) ≠ -1) (Xmpp.new Example.login) reached).1⟩

end CallHandler

/-- Ids may be drawn any number of times. -/
theorem CallSystem.run_drawIds (count : Nat) (system : CallSystem) :
    run CallSystem.step (List.replicate count .drawId) system =
      some { system with xmpp := { system.xmpp with ids := ⟨system.xmpp.ids.draws + count⟩ } } := by
  induction count generalizing system with
  | zero => rfl
  | succ count inductionHypothesis =>
    rw [List.replicate_succ, run_cons]
    show run CallSystem.step (List.replicate count .drawId)
      { system with xmpp := system.xmpp.getUniqueId.2 } = _
    rw [inductionHypothesis]
    simp only [Xmpp.getUniqueId, UniqueId.getNextId, Nat.add_assoc, Nat.add_comm 1]

open CallHandler in
/-- Once the generator has gone all the way round, `MakeCallAsync` draws the id `-1`. The branches
of this call get no id. -/
theorem generated_minusOne :
    (∃ actions system, run CallSystem.step actions (CallSystem.new Example.login) = some system ∧
      -1 ∈ system.returned) ∧
    ¬ ∀ (created reading : Reading) (toDial : TString) (callId : Long) (xmpp : Xmpp)
      (moves : List Move) (handler : CallHandler),
      run move moves ((newMakeCall created toDial callId).preExecute reading xmpp).2.1 =
        some handler →
      handler.Each (OfRequest callId (newCallSetupId reading)) := by
  refine ⟨?_, ?_⟩
  · refine ⟨List.replicate (2 ^ 32 - 2) .drawId ++
      [.drawCallId "123".toList, .addCallHandler 0 (Example.reading 0)], _,
      run_append_eq_some.mpr ⟨_, CallSystem.run_drawIds _ _, rfl⟩, ?_⟩
    decide
  · intro keeps
    have reached : run move [.event (Example.reading 1) (Example.firstLeg "a" .requested)
        (Xmpp.new Example.login)] ((newMakeCall (Example.reading 0) "123".toList (-1)).preExecute
          (Example.reading 0) (Xmpp.new Example.login)).2.1 = some _ := rfl
    have each := keeps _ _ _ _ _ _ _ reached
    exact absurd (each.branch _ List.mem_cons_self).callId (by decide)

namespace CallHandler

/-! ### The outbound leg -/

/-- `m_out_id`, of the handlers that have one -/
def outId (handler : CallHandler) : TString :=
  match handler.kind with
  | .makeCall make => make.outId
  | _ => []

/-- The move sets `m_out_id`: the user has answered the own phone, and an active-call event of the
call to the other party is accepted. -/
def SetsOutId (handler : CallHandler) : Move → Prop
  | .event _ given _ => ∃ make ace, handler.kind = .makeCall make ∧
      handler.state = .makeCallRequestedAnswered ∧ given.data = .activeCall ace ∧
      matchSips make ace = true ∧ handler.stateData.sameCallSetupId ace.callSetupId = true ∧
      given.isError = false ∧ make.toSipField = ace.toUri ∧
      ¬ (make.fromSipField = ace.toUri ∧ ace.dialogState = .requested)
  | .check _ _ => False

/-- The outbound leg has been created in the course of the moves. -/
def OutLegCreated (moves : List Move) (start : CallHandler) : Prop :=
  Happens move (fun handler next _ => handler.SetsOutId next) moves start

theorem outId_dropRequestOrReply (reading : Reading) (handler : CallHandler) (event : XmppEvent)
    (xmpp : Xmpp) : (handler.dropRequestOrReply reading event xmpp).2.1.outId = handler.outId := by
  obtain ⟨contextIds, result | result⟩ := dropRequestOrReply_handler reading handler event xmpp
  · rw [result]
    rfl
  · rw [result]
    rfl

theorem outId_makeCallActiveCall {make : MakeCallData} {handler : CallHandler}
    (kind : handler.kind = .makeCall make) (reading : Reading) (event : XmppEvent)
    (ace : ActiveCall) (xmpp : Xmpp)
    (other : ¬ (handler.state = .makeCallRequestedAnswered ∧ make.toSipField = ace.toUri ∧
      ¬ (make.fromSipField = ace.toUri ∧ ace.dialogState = .requested))) :
    (handler.makeCallActiveCall make reading event ace xmpp).2.1.outId = handler.outId := by
  unfold makeCallActiveCall outId
  split_ifs with requested set answering confirmed outgoing created connecting connected
  · simp only [kind]
    rfl
  · rfl
  · rfl
  · rfl
  · exact absurd ⟨outgoing.1, outgoing.2, requested⟩ other
  · exact absurd ⟨outgoing.1, outgoing.2, requested⟩ other
  · rfl
  · rfl
  · rfl

/-- Only such a move changes `m_out_id`. -/
theorem outId_moved {make : MakeCallData} {handler : CallHandler}
    (kind : handler.kind = .makeCall make) {next : Move} (other : ¬ handler.SetsOutId next) :
    (handler.moved next).outId = handler.outId := by
  cases next with
  | check reading xmpp =>
    unfold CallHandler.moved
    rcases isStillExist_cases reading handler xmpp with same | ⟨-, lapsed⟩
    · simp only [same]
    · simp only [lapsed]
      rfl
  | event reading given xmpp =>
    show (handler.isYourEvent reading given xmpp).2.1.outId = handler.outId
    unfold isYourEvent
    rw [kind]
    dsimp only
    unfold makeCallIsYourEvent
    split
    · rename_i ace isCall
      split_ifs with foreign failed
      · rfl
      · rfl
      · simp only [Bool.or_eq_true, Bool.not_eq_true', not_or, Bool.not_eq_false] at foreign
        refine @outId_makeCallActiveCall make
          (handler.addBranch given.id ace false handler.callSetupIdArgument) kind reading given ace
          xmpp ?_
        rintro ⟨answered, toUri, notRequested⟩
        exact other ⟨make, ace, kind, answered, isCall, foreign.1, foreign.2,
          by simpa using failed, toUri, notRequested⟩
    · split_ifs
      · split
        · rfl
        · rfl
      · rfl
      · rfl
    · split_ifs <;> rfl
    · exact outId_dropRequestOrReply reading handler given xmpp

/-- What the retract of a branch or of any other id makes of the state -/
theorem state_retract {make : MakeCallData} {handler : CallHandler}
    (kind : handler.kind = .makeCall make) (reading : Reading) {event : XmppEvent}
    (retract : event.data = .retractCall) (xmpp : Xmpp) :
    (handler.isYourEvent reading event xmpp).2.1.state =
      if event.id ∈ handler.branches.ids then
        if handler.branches.ids = {event.id} then .dropped else handler.state
      else if handler.outId = event.id then .dropped else handler.state := by
  have out : handler.outId = make.outId := by rw [outId, kind]
  unfold isYourEvent
  rw [kind, out]
  dsimp only
  unfold makeCallIsYourEvent
  rw [retract]
  dsimp only
  by_cases present : handler.branches.hasId event.id = true
  · rw [if_pos present, if_pos (CallBranches.hasId_iff_mem_ids.mp present)]
    have removed := CallBranches.ids_removeById event.id handler.branches
    rcases @CallBranches.checkDroppedCall_cases handler.stateData _ _ present with
      ⟨first, member, result⟩ | ⟨empty, result⟩
    · have remains : first.id ∈ handler.branches.ids.erase event.id :=
        removed ▸ CallBranches.mem_ids.mpr ⟨first, member, rfl⟩
      rw [result, if_neg]
      · rfl
      · intro only
        rw [only, Finset.erase_singleton] at remains
        exact absurd remains (Finset.notMem_empty _)
    · rw [result, if_pos]
      · rfl
      · rw [CallBranches.ids_eq_empty.mpr empty] at removed
        have within := (Finset.erase_eq_empty_iff _ _).mp removed.symm
        refine within.resolve_left fun none => ?_
        have inside := CallBranches.hasId_iff_mem_ids.mp present
        rw [none] at inside
        exact absurd inside (Finset.notMem_empty _)
  · rw [if_neg present, if_neg fun inside => present (CallBranches.hasId_iff_mem_ids.mpr inside)]
    split_ifs <;> rfl

/-- Until the outbound leg is created, `m_out_id` stays as it is. -/
theorem Making.outId_eq {setup : TString} {make : MakeCallData} {moves : List Move}
    {handler last : CallHandler} (making : handler.Making setup make)
    (printable : Strings.cStr setup = setup) (none : ¬ OutLegCreated moves handler)
    (reached : run move moves handler = some last) : last.outId = handler.outId := by
  induction moves generalizing handler with
  | nil =>
    obtain rfl : handler = last := Option.some.inj reached
    rfl
  | cons next rest inductionHypothesis =>
    obtain ⟨_, stepped, remaining⟩ := run_cons_eq_some.mp reached
    obtain rfl := Option.some.inj stepped
    have later := inductionHypothesis (making.moved printable next).1
      (fun happens => none ⟨_, rfl, Or.inr happens⟩) remaining
    obtain ⟨data, kind, -⟩ := making.kind
    exact later.trans (outId_moved kind fun sets => none ⟨_, rfl, Or.inl sets⟩)

/-- The retract of the outbound leg ends the call, once the leg has been created; the retract of
something that is no leg of the call does not end it. -/
structure DecidedByOutLeg (created : Prop) (reading : Reading) (event : XmppEvent) (xmpp : Xmpp)
    (handler : CallHandler) : Prop where
  ends : created → event.id = handler.outId →
    (handler.isYourEvent reading event xmpp).2.1.state = .dropped
  stays : event.id ∉ handler.branches.ids → ¬ (created ∧ event.id = handler.outId) →
    handler.state ≠ .dropped → (handler.isYourEvent reading event xmpp).2.1.state ≠ .dropped

/-- While the call is not dropped, a created outbound leg with this id is no branch beside others,
and the id is not the empty one while no outbound leg has been created. -/
structure OutLegAlone (created : Prop) (id : TString) (handler : CallHandler) : Prop where
  alone : created → handler.state ≠ .dropped → id = handler.outId → id ∈ handler.branches.ids →
    handler.branches.ids = {id}
  named : ¬ created → handler.state ≠ .dropped → id = [] → [] ∈ handler.branches.ids

/-- The outbound leg decides a call that the program makes exactly when it is no branch beside
others, and when the retract has an id or the leg has been created. -/
theorem decidedByOutLeg_iff (created reading : Reading) (toDial : TString) (callId : Long)
    (xmpp : Xmpp) {moves : List Move} {handler : CallHandler}
    (reached : run move moves ((newMakeCall created toDial callId).preExecute reading xmpp).2.1 =
      some handler)
    {event : XmppEvent} (retract : event.data = .retractCall) (offered : Reading) (object : Xmpp) :
    handler.DecidedByOutLeg (OutLegCreated moves
        ((newMakeCall created toDial callId).preExecute reading xmpp).2.1) offered event object ↔
      handler.OutLegAlone (OutLegCreated moves
        ((newMakeCall created toDial callId).preExecute reading xmpp).2.1) event.id := by
  have making := making_preExecute created reading toDial callId xmpp
  have printable := cStr_newCallSetupId reading
  have unset : ¬ OutLegCreated moves
      ((newMakeCall created toDial callId).preExecute reading xmpp).2.1 → handler.outId = [] :=
    fun none => making.outId_eq printable none reached
  generalize OutLegCreated moves
    ((newMakeCall created toDial callId).preExecute reading xmpp).2.1 = legCreated at unset ⊢
  have lasting : handler.Making _ _ := run_invariant (fun _ next _ stepped before =>
    Option.some.inj stepped ▸ (before.moved printable next).1) reached making
  obtain ⟨make, kind, -⟩ := lasting.kind
  have becomes := state_retract kind offered retract object
  constructor
  · rintro ⟨ends, stays⟩
    refine ⟨fun isCreated alive own inside => ?_, fun notCreated alive empty => ?_⟩
    · by_contra others
      have ended := ends isCreated own
      rw [becomes, if_pos inside, if_neg others] at ended
      exact alive ended
    · by_contra foreign
      rw [← empty] at foreign
      refine stays foreign (fun both => notCreated both.1) alive ?_
      rw [becomes, if_neg foreign, if_pos ((unset notCreated).trans empty.symm)]
  · rintro ⟨alone, named⟩
    refine ⟨fun isCreated own => ?_, fun foreign other alive => ?_⟩
    · rw [becomes]
      by_cases inside : event.id ∈ handler.branches.ids
      · rw [if_pos inside]
        by_cases dropped : handler.state = .dropped
        · rw [dropped, ite_self]
        · rw [if_pos (alone isCreated dropped own inside)]
      · rw [if_neg inside, if_pos own.symm]
    · rw [becomes, if_neg foreign]
      by_cases own : handler.outId = event.id
      · by_cases isCreated : legCreated
        · exact absurd ⟨isCreated, own.symm⟩ other
        · have empty : event.id = [] := own.symm.trans (unset isCreated)
          exact absurd (empty ▸ named isCreated alive empty) foreign
      · rw [if_neg own]
        exact alive

end CallHandler

/-- An event of the second leg of a call to 123 that the program has made at tick zero -/
def Example.secondLeg (id : String) (dialogState : CallDialogState) : XmppEvent :=
  let ace : ActiveCall :=
    { dialogState := dialogState
      sipCallid := "other".toList
      fromUri := "sip:ann@example.com".toList
      toUri := "sip:123@example.com".toList
      fromTag := "from".toList
      toTag := "to".toList
      branch := id.toList
      callSetupId := "00000000".toList }
  ⟨id.toList, false, 0, .activeCall ace⟩

open CallHandler in
/-- The handler of a call to 123, as `PreExecute` leaves it at tick zero -/
def Example.dialled : CallHandler :=
  ((newMakeCall (Example.reading 0) "123".toList 1).preExecute (Example.reading 0)
    (Xmpp.new Example.login)).2.1

open CallHandler in
/-- The user answers the own phone, and the call to the other party is created. -/
def Example.outLegCreated : List Move :=
  [.event (Example.reading 1) (Example.firstLeg "a" .requested) (Xmpp.new Example.login),
    .event (Example.reading 2) (Example.firstLeg "a" .confirmed) (Xmpp.new Example.login),
    .event (Example.reading 3) (Example.secondLeg "c" .created) (Xmpp.new Example.login)]

open CallHandler in
/-- The other party hangs up, and the call goes on: its outbound leg is only one of two branches. -/
theorem decidedByOutLeg_outLegCreated :
    ¬ ∀ (created reading : Reading) (toDial : TString) (callId : Long) (xmpp : Xmpp)
      (moves : List Move) (handler : CallHandler),
      run move moves ((newMakeCall created toDial callId).preExecute reading xmpp).2.1 =
        some handler →
      ∀ event : XmppEvent, event.data = .retractCall → ∀ offered object,
        handler.DecidedByOutLeg (OutLegCreated moves
          ((newMakeCall created toDial callId).preExecute reading xmpp).2.1) offered event object := by
  intro decided
  have reached : run move Example.outLegCreated Example.dialled = some _ := rfl
  have created : OutLegCreated Example.outLegCreated Example.dialled :=
    ⟨_, rfl, Or.inr ⟨_, rfl, Or.inr ⟨_, rfl, Or.inl
      ⟨_, _, rfl, rfl, rfl, by decide, by decide, rfl, by decide, by decide⟩⟩⟩⟩
  have ended := (decided _ _ _ _ _ _ _ reached (Example.retract "c") rfl (Example.reading 4)
    (Xmpp.new Example.login)).ends created (by decide)
  exact absurd ended (by decide)

open CallHandler in
/-- The user's own phone is hung up first; then the retract of the outbound leg ends the call. -/
theorem decidedByOutLeg_alone :
    ∃ handler, run move (Example.outLegCreated ++
        [.event (Example.reading 4) (Example.retract "a") (Xmpp.new Example.login)])
        Example.dialled = some handler ∧
      handler.DecidedByOutLeg (OutLegCreated (Example.outLegCreated ++
          [.event (Example.reading 4) (Example.retract "a") (Xmpp.new Example.login)])
        Example.dialled) (Example.reading 5) (Example.retract "c") (Xmpp.new Example.login) := by
  have reached : run move (Example.outLegCreated ++
    [.event (Example.reading 4) (Example.retract "a") (Xmpp.new Example.login)])
    Example.dialled = some _ := rfl
  refine ⟨_, reached, (decidedByOutLeg_iff (Example.reading 0) (Example.reading 0) "123".toList 1
    (Xmpp.new Example.login) reached rfl (Example.reading 5) (Xmpp.new Example.login)).mpr
      ⟨fun _ _ _ _ => ?_, fun _ _ empty => ?_⟩⟩
  · decide
  · exact absurd empty (by decide)

end JnTapi
