/-
This file proves what a handler knows of the branches of its call.

The ids of the branches are a set: an active-call event adds its id, and the retract
of a branch removes it. The handler of an incoming call follows this set exactly and
is dropped when it becomes empty. The state data are those of the leg that the call
is tracked by, and the retract of any branch makes them those of the first branch
that remains.
-/

import Mathlib.Data.Finset.Insert
import Mathlib.Data.Finset.Erase
import JnTapi.Call.History

namespace JnTapi

open Library

namespace CallBranches

/-- The ids of the branches -/
def ids (branches : CallBranches) : Finset TString :=
  ⟨branches.branches.map OnSipCallStateData.id, branches.distinct⟩

theorem mem_ids {id : TString} {branches : CallBranches} :
    id ∈ branches.ids ↔ ∃ branch ∈ branches.branches, branch.id = id :=
  List.mem_map

theorem hasId_iff_mem_ids {id : TString} {branches : CallBranches} :
    branches.hasId id = true ↔ id ∈ branches.ids :=
  hasId_iff_mem

theorem ids_addBranch (callData : OnSipCallStateData) (branches : CallBranches) :
    (branches.addBranch callData).ids = insert callData.id branches.ids := by
  ext id
  rw [← hasId_iff_mem_ids, hasId_addBranch, hasId_iff_mem_ids, Finset.mem_insert]

theorem ids_removeById (id : TString) (branches : CallBranches) :
    (branches.removeById id).ids = branches.ids.erase id := by
  ext other
  rw [Finset.mem_erase]
  constructor
  · intro remains
    refine ⟨?_, ?_⟩
    · rintro rfl
      have gone := hasId_removeById other branches
      rw [hasId_iff_mem_ids.mpr remains] at gone
      cases gone
    · obtain ⟨branch, member, same⟩ := mem_ids.mp remains
      exact mem_ids.mpr ⟨branch, mem_removeById member, same⟩
  · rintro ⟨differs, present⟩
    obtain ⟨branch, member, same⟩ := mem_ids.mp present
    refine mem_ids.mpr ⟨branch, ?_, same⟩
    refine (List.mem_eraseP_of_neg ?_).mpr member
    simp only [decide_eq_true_eq, same]
    exact differs

theorem ids_eq_empty {branches : CallBranches} : branches.ids = ∅ ↔ branches.branches = [] := by
  rw [Finset.eq_empty_iff_forall_notMem]
  constructor
  · intro none
    cases split : branches.branches with
    | nil => rfl
    | cons first rest =>
      refine absurd (mem_ids.mpr ⟨first, ?_, rfl⟩) (none first.id)
      rw [split]
      exact List.mem_cons_self
  · intro empty id member
    obtain ⟨branch, inside, -⟩ := mem_ids.mp member
    rw [empty] at inside
    exact absurd inside List.not_mem_nil

end CallBranches

/-! ### The ids that are told -/

/-- What an event makes of the ids of the branches of its call -/
def XmppEvent.tell (event : XmppEvent) (ids : Finset TString) : Finset TString :=
  match event.data with
  | .activeCall _ => insert event.id ids
  | .retractCall => ids.erase event.id
  | _ => ids

/-- The event is an active-call event of the call with this SIP call id, or a retract. -/
def XmppEvent.OfCall (sipCallId : TString) (event : XmppEvent) : Prop :=
  (∃ ace, event.data = .activeCall ace ∧ ace.sipCallid = sipCallId) ∨ event.data = .retractCall

namespace CallHandler

/-- What a move makes of the ids of the branches -/
def Move.tell (ids : Finset TString) : Move → Finset TString
  | .event _ given _ => given.tell ids
  | .check _ _ => ids

/-- The move is an active-call event of the call, or a retract. -/
def Move.OfCall (sipCallId : TString) : Move → Prop
  | .event _ given _ => given.OfCall sipCallId
  | .check _ _ => False

/-- The data are those of an incoming call. -/
structure OfIncoming (callId : Long) (sipCallId : TString) (data : OnSipCallStateData) : Prop where
  callId : data.callId = callId
  callType : data.callType = .incomingCall
  sipCallId : data.sipCallId = sipCallId

/-- The handler of an incoming call has the branches with these ids. -/
structure TracksIds (ids : Finset TString) (callId : Long) (sipCallId : TString)
    (handler : CallHandler) : Prop where
  kind : handler.kind = .incoming
  branchIds : handler.branches.ids = ids
  current : handler.state ≠ .dropped → handler.stateData.id ∈ ids
  real : callId ≠ -1
  each : handler.Each (OfIncoming callId sipCallId)

section incoming

variable {ids : Finset TString} {callId : Long} {sipCallId : TString} {handler : CallHandler}

theorem TracksIds.hasId (tracks : handler.TracksIds ids callId sipCallId) {id : TString} :
    handler.branches.hasId id = true ↔ id ∈ ids := by
  rw [CallBranches.hasId_iff_mem_ids, tracks.branchIds]

/-- The branch of an event of the call is added, or replaced. -/
theorem TracksIds.addBranch (tracks : handler.TracksIds ids callId sipCallId) (id : TString)
    {ace : ActiveCall} (same : ace.sipCallid = sipCallId) :
    (handler.addBranch id ace true none).TracksIds (insert id ids) callId sipCallId where
  kind := tracks.kind
  branchIds := (CallBranches.ids_addBranch _ handler.branches).trans (by rw [tracks.branchIds]; rfl)
  current alive := Finset.mem_insert_of_mem (tracks.current alive)
  real := tracks.real
  each := by
    refine ⟨tracks.each.current, fun branch member => ?_⟩
    rcases CallBranches.mem_addBranch member with rfl | earlier
    · have given : handler.callId ≠ -1 := fun none =>
        tracks.real (tracks.each.current.callId.symm.trans none)
      exact ⟨(OnSipCallStateData.assignCallStateData_callId _ _ _ _ _ _ given).trans
        tracks.each.current.callId, tracks.each.current.callType, same⟩
    · exact tracks.each.branch branch earlier

/-- An active-call event of the call is accepted and adds its id. -/
theorem TracksIds.activeCall (tracks : handler.TracksIds ids callId sipCallId) (reading : Reading)
    {event : XmppEvent} {ace : ActiveCall} (isCall : event.data = .activeCall ace)
    (same : ace.sipCallid = sipCallId) (xmpp : Xmpp) :
    (handler.isYourEvent reading event xmpp).1 = true ∧
      (handler.isYourEvent reading event xmpp).2.1.TracksIds (event.tell ids) callId sipCallId := by
  have added := tracks.addBranch event.id same
  have ours : ¬ ace.sipCallid ≠ handler.stateData.sipCallId :=
    not_not.mpr (same.trans tracks.each.current.sipCallId.symm)
  unfold isYourEvent XmppEvent.tell
  rw [tracks.kind, isCall]
  simp only [incomingIsYourEvent, isCall, if_neg ours]
  split_ifs with confirmed
  · exact ⟨rfl, ⟨added.kind, added.branchIds, fun _ => Finset.mem_insert_self _ _, added.real,
      ⟨added.each.current.callId, added.each.current.callType, same⟩, added.each.branch⟩⟩
  · exact ⟨rfl, added⟩

/-- A retract is accepted when its id is that of a branch. It removes the id, and drops the call
when no other is left. -/
theorem TracksIds.retractCall (tracks : handler.TracksIds ids callId sipCallId) (reading : Reading)
    {event : XmppEvent} (retract : event.data = .retractCall) (xmpp : Xmpp) :
    ((handler.isYourEvent reading event xmpp).1 = true ↔ event.id ∈ ids) ∧
      (handler.isYourEvent reading event xmpp).2.1.TracksIds (event.tell ids) callId sipCallId ∧
      (handler.state ≠ .dropped →
        ((handler.isYourEvent reading event xmpp).2.1.state = .dropped ↔
          event.tell ids = ∅)) := by
  have told : event.tell ids = ids.erase event.id := by
    unfold XmppEvent.tell
    rw [retract]
  rw [told]
  unfold isYourEvent
  rw [tracks.kind]
  simp only [incomingIsYourEvent, retract]
  by_cases present : handler.branches.hasId event.id = true
  · have removed : (handler.branches.removeById event.id).ids = ids.erase event.id := by
      rw [CallBranches.ids_removeById, tracks.branchIds]
    have remaining : ∀ branch ∈ (handler.branches.removeById event.id).branches,
        OfIncoming callId sipCallId branch := fun branch member =>
      tracks.each.branch branch (CallBranches.mem_removeById member)
    simp only [present, Bool.not_true, Bool.false_eq_true, if_false]
    rcases @CallBranches.checkDroppedCall_cases handler.stateData _ _ present with
      ⟨first, member, result⟩ | ⟨empty, result⟩
    · rw [result]
      have inside : first.id ∈ ids.erase event.id :=
        removed ▸ CallBranches.mem_ids.mpr ⟨first, member, rfl⟩
      refine ⟨iff_of_true rfl (tracks.hasId.mp present),
        ⟨tracks.kind, removed, fun _ => inside, tracks.real, remaining first member, remaining⟩, ?_⟩
      exact fun alive => iff_of_false alive (Finset.ne_empty_of_mem inside)
    · rw [result]
      exact ⟨iff_of_true rfl (tracks.hasId.mp present), ⟨tracks.kind, removed,
        fun alive => absurd rfl alive, tracks.real, tracks.each.current, remaining⟩,
        fun _ => iff_of_true rfl (removed ▸ CallBranches.ids_eq_empty.mpr empty)⟩
  · have absent : event.id ∉ ids := fun member => present (tracks.hasId.mpr member)
    rw [Bool.not_eq_true] at present
    simp only [present, Bool.not_false, if_true, Finset.erase_eq_of_notMem absent]
    exact ⟨iff_of_false (by decide) absent, tracks,
      fun alive => iff_of_false alive (Finset.ne_empty_of_mem (tracks.current alive))⟩

/-- An event of the call changes the branches as it tells. -/
theorem TracksIds.moved (tracks : handler.TracksIds ids callId sipCallId) {next : Move}
    (ofCall : next.OfCall sipCallId) :
    (handler.moved next).TracksIds (next.tell ids) callId sipCallId := by
  cases next with
  | check reading xmpp => exact absurd ofCall id
  | event reading given xmpp =>
    rcases ofCall with ⟨ace, isCall, same⟩ | retract
    · exact (tracks.activeCall reading isCall same xmpp).2
    · exact (tracks.retractCall reading retract xmpp).2.1

theorem TracksIds.run {moves : List Move} {last : CallHandler}
    (tracks : handler.TracksIds ids callId sipCallId)
    (ofCall : ∀ next ∈ moves, next.OfCall sipCallId)
    (reached : Library.run move moves handler = some last) :
    last.TracksIds (moves.foldl Move.tell ids) callId sipCallId := by
  induction moves generalizing handler ids with
  | nil =>
    obtain rfl : handler = last := Option.some.inj reached
    exact tracks
  | cons next rest inductionHypothesis =>
    obtain ⟨_, stepped, remaining⟩ := run_cons_eq_some.mp reached
    obtain rfl := Option.some.inj stepped
    exact inductionHypothesis (tracks.moved (ofCall next List.mem_cons_self))
      (fun other member => ofCall other (List.mem_cons_of_mem _ member)) remaining

/-- The handler of a new incoming call has the branch that it was created for. Its call id is the
given one, or zero when none is given. -/
theorem tracksIds_newIncoming (reading : Reading) (event : XmppEvent) (ace : ActiveCall)
    (given : Long) : (newIncoming reading event ace given).TracksIds {event.id}
      (newIncoming reading event ace given).callId ace.sipCallid := by
  have real : (newIncoming reading event ace given).callId ≠ -1 := by
    show (if given ≠ -1 then given else 0) ≠ -1
    split_ifs with isGiven
    · exact isGiven
    · decide
  refine ⟨rfl, ?_, fun _ => Finset.mem_singleton_self _, real, ⟨rfl, rfl, rfl⟩, ?_⟩
  · exact (CallBranches.ids_addBranch _ _).trans rfl
  · intro branch member
    rcases CallBranches.mem_addBranch member with rfl | none
    · exact ⟨OnSipCallStateData.assignCallStateData_callId _ _ _ _ _ _ real, rfl, rfl⟩
    · exact absurd none List.not_mem_nil

end incoming

/-- The branches of an incoming call are a set: whatever active-call events of the call and retracts
its handler is given, the branches have the ids that these events tell, each once. The handler
accepts every such active-call event, and a retract exactly when its id is among them; it is dropped
by a retract exactly when none is left. While it is not dropped, its state data have one of the ids,
and the state data and the branches are those of the call. -/
theorem incoming_tracks_ids (created : Reading) (first : XmppEvent) (ace : ActiveCall)
    (given : Long) {moves : List Move} (ofCall : ∀ next ∈ moves, next.OfCall ace.sipCallid)
    {handler : CallHandler}
    (reached : run move moves (newIncoming created first ace given) = some handler) :
    (handler.branches.branches.map OnSipCallStateData.id).Nodup ∧
    (handler.branches.branches.map OnSipCallStateData.id).toFinset =
      moves.foldl Move.tell {first.id} ∧
    (handler.state ≠ .dropped → handler.stateData.id ∈ moves.foldl Move.tell {first.id}) ∧
    handler.Each (OfIncoming (newIncoming created first ace given).callId ace.sipCallid) ∧
    ∀ reading event xmpp,
      (∀ later, event.data = .activeCall later → later.sipCallid = ace.sipCallid →
        (handler.isYourEvent reading event xmpp).1 = true) ∧
      (event.data = .retractCall →
        ((handler.isYourEvent reading event xmpp).1 = true ↔
          event.id ∈ moves.foldl Move.tell {first.id}) ∧
        (handler.state ≠ .dropped →
          ((handler.isYourEvent reading event xmpp).2.1.state = .dropped ↔
            event.tell (moves.foldl Move.tell {first.id}) = ∅))) := by
  have tracks : handler.TracksIds (moves.foldl Move.tell {first.id})
      (newIncoming created first ace given).callId ace.sipCallid :=
    (tracksIds_newIncoming created first ace given).run ofCall reached
  refine ⟨handler.branches.distinct, ?_, tracks.current, tracks.each, fun reading event xmpp =>
    ⟨fun later isCall same => (tracks.activeCall reading isCall same xmpp).1,
      fun retract => ?_⟩⟩
  · rw [← tracks.branchIds]
    ext id
    exact List.mem_toFinset
  · obtain ⟨accepted, -, dropped⟩ := tracks.retractCall reading retract xmpp
    exact ⟨accepted, dropped⟩

/-- Two phones ring; one of them stops and rings again, and the other one answers. -/
theorem incoming_tracks_ids_twoPhones :
    let given := fun (tick : Nat) (event : XmppEvent) =>
      Move.event (Example.reading tick) event (Xmpp.new Example.login)
    let moves := [given 1 (Example.activeCall "b" "call" .requested), given 2 (Example.retract "a"),
      given 3 (Example.retract "x"), given 4 (Example.activeCall "a" "call" .requested),
      given 5 (Example.activeCall "b" "call" .confirmed)]
    let ace : ActiveCall := ⟨.requested, "call".toList, [], [], [], [], [], []⟩
    ∃ handler, run move moves (newIncoming (Example.reading 0)
        ⟨"a".toList, false, 0, .activeCall ace⟩ ace 1) = some handler ∧
      (handler.branches.branches.map OnSipCallStateData.id).toFinset =
        {"a".toList, "b".toList} ∧ handler.stateData.id = "b".toList := by
  intro given moves ace
  have ofCall : ∀ next ∈ moves, next.OfCall ace.sipCallid := by
    intro next member
    simp only [moves, List.mem_cons, List.not_mem_nil, or_false] at member
    rcases member with rfl | rfl | rfl | rfl | rfl
    · exact Or.inl ⟨_, rfl, rfl⟩
    · exact Or.inr rfl
    · exact Or.inr rfl
    · exact Or.inl ⟨_, rfl, rfl⟩
    · exact Or.inl ⟨_, rfl, rfl⟩
  have reached : run move moves (newIncoming (Example.reading 0)
    ⟨"a".toList, false, 0, .activeCall ace⟩ ace 1) = some _ := rfl
  obtain ⟨-, same, -⟩ := incoming_tracks_ids _ _ ace 1 ofCall reached
  exact ⟨_, reached, same.trans (by decide), by decide⟩

/-! ### The tracked leg -/

/-- The retract of a branch leaves the state data, unless they are those of the branch; then they
become those of a branch that remains. -/
def LeavesTracked (reading : Reading) (event : XmppEvent) (xmpp : Xmpp) (handler : CallHandler) :
    Prop :=
  (event.id ≠ handler.stateData.id →
    (handler.isYourEvent reading event xmpp).2.1.stateData = handler.stateData) ∧
  (event.id = handler.stateData.id →
    ∃ branch ∈ (handler.isYourEvent reading event xmpp).2.1.branches.branches,
      (handler.isYourEvent reading event xmpp).2.1.stateData = branch)

/-- The branch is that of the state data, or the first of the others has the same data as they. -/
def FirstOtherTracked (id : TString) (handler : CallHandler) : Prop :=
  id = handler.stateData.id ∨ ∀ other,
    handler.branches.branches.find? (fun branch => branch.id ≠ id) = some other →
      other = handler.stateData

end CallHandler

/-- The first of the branches that remain is the first of the others. -/
theorem CallBranches.head?_removeById (id : TString) (branches : CallBranches) :
    (branches.removeById id).branches.head? =
      branches.branches.find? fun branch => branch.id ≠ id := by
  obtain ⟨branches, distinct⟩ := branches
  show (branches.eraseP fun branch => branch.id = id).head? = _
  induction branches with
  | nil => rfl
  | cons first rest inductionHypothesis =>
    rw [List.map_cons, List.nodup_cons] at distinct
    by_cases same : first.id = id
    · rw [List.eraseP_cons_of_pos (by simpa using same), List.find?_cons_of_neg (by simpa using same)]
      cases rest with
      | nil => rfl
      | cons second more =>
        have differs : second.id ≠ id := by
          rintro rfl
          exact distinct.1 (same ▸ List.mem_cons_self)
        rw [List.find?_cons_of_pos (by simpa using differs)]
        rfl
    · rw [List.eraseP_cons_of_neg (by simpa using same), List.find?_cons_of_pos (by simpa using same)]
      rfl

namespace CallHandler

/-- A retract of one of several branches makes the state data those of the first of the others. -/
theorem stateData_retracted {handler : CallHandler} (counts : handler.kind ≠ .outgoing)
    (reading : Reading) {event : XmppEvent} (retract : event.data = .retractCall) (xmpp : Xmpp)
    (present : handler.branches.hasId event.id = true)
    (remains : ∃ other ∈ handler.branches.branches, other.id ≠ event.id) :
    ∃ other, handler.branches.branches.find? (fun branch => branch.id ≠ event.id) = some other ∧
      (handler.isYourEvent reading event xmpp).2.1 = { handler.withStateData other with
        branches := handler.branches.removeById event.id } := by
  obtain ⟨left, member, differs⟩ := remains
  obtain ⟨other, found⟩ : ∃ other,
      handler.branches.branches.find? (fun branch => branch.id ≠ event.id) = some other :=
    Option.isSome_iff_exists.mp (List.find?_isSome.mpr ⟨left, member, decide_eq_true differs⟩)
  refine ⟨other, found, ?_⟩
  have first := (handler.branches.head?_removeById event.id).trans found
  obtain ⟨rest, split⟩ := List.head?_eq_some_iff.mp first
  have result : handler.branches.checkDroppedCall handler.stateData event.id =
      (false, other, handler.branches.removeById event.id) := by
    simp only [CallBranches.checkDroppedCall, present, Bool.not_true, Bool.false_eq_true, if_false,
      split]
  unfold isYourEvent
  cases kind : handler.kind with
  | outgoing => exact absurd kind counts
  | incoming =>
    simp only [incomingIsYourEvent, retract, present, Bool.not_true, Bool.false_eq_true, if_false,
      result]
  | makeCall make => simp only [makeCallIsYourEvent, retract, present, if_true, result]

/-- The retract of one of several branches leaves the tracked leg alone exactly when it is the
retract of this leg, or the first of the other branches has the data of this leg. -/
theorem leavesTracked_iff {handler : CallHandler} (counts : handler.kind ≠ .outgoing)
    {event : XmppEvent} (retract : event.data = .retractCall)
    (present : handler.branches.hasId event.id = true)
    (remains : ∃ other ∈ handler.branches.branches, other.id ≠ event.id) (reading : Reading)
    (xmpp : Xmpp) :
    handler.LeavesTracked reading event xmpp ↔ handler.FirstOtherTracked event.id := by
  obtain ⟨other, found, result⟩ :=
    stateData_retracted counts reading retract xmpp present remains
  have replaced : (handler.isYourEvent reading event xmpp).2.1.stateData = other := by
    rw [result]
    rfl
  unfold LeavesTracked FirstOtherTracked
  rw [replaced, found]
  constructor
  · rintro ⟨foreign, -⟩
    by_cases own : event.id = handler.stateData.id
    · exact Or.inl own
    · exact Or.inr fun _ same => (Option.some.inj same).symm.trans (foreign own)
  · intro tracked
    refine ⟨fun foreign => ?_, fun _ => ⟨other, ?_, rfl⟩⟩
    · exact (tracked.resolve_left foreign) other rfl
    · rw [result]
      have first := (handler.branches.head?_removeById event.id).trans found
      exact List.mem_of_mem_head? first

end CallHandler

/-- Three phones ring, and one of them answers. -/
def Example.answered : List CallAction :=
  [.signalEvent (Example.readings 0) (Example.activeCall "a" "call" .requested) false,
    .signalEvent (Example.readings 1) (Example.activeCall "b" "call" .requested) false,
    .signalEvent (Example.readings 2) (Example.activeCall "c" "call" .requested) false,
    .signalEvent (Example.readings 3) (Example.activeCall "c" "call" .confirmed) false]

/-- When the other phones stop ringing, the call is tracked by one of them. -/
theorem leavesTracked_answered :
    ¬ ∀ login actions (system : CallSystem),
      run CallSystem.step actions (CallSystem.new login) = some system →
      ∀ handler ∈ system.stateHandlers, handler.kind ≠ .outgoing →
      ∀ event : XmppEvent, event.data = .retractCall → handler.branches.hasId event.id = true →
        (∃ other ∈ handler.branches.branches, other.id ≠ event.id) →
        ∀ reading xmpp, handler.LeavesTracked reading event xmpp := by
  intro leaves
  have reached : run CallSystem.step Example.answered (CallSystem.new Example.login) =
    some _ := rfl
  have stopped := leaves Example.login Example.answered _ reached _ List.mem_cons_self (by decide)
    (Example.retract "a") rfl (by decide) (by decide) (Example.reading 4) (Xmpp.new Example.login)
  exact absurd (stopped.1 (by decide)) (by decide)

/-- When they stop ringing and the first phone has answered, the call is still tracked by it. -/
theorem leavesTracked_firstAnswered :
    ∃ system handler, run CallSystem.step
        (Example.answered.take 2 ++ [.signalEvent (Example.readings 3)
          (Example.activeCall "a" "call" .confirmed) false]) (CallSystem.new Example.login) =
        some system ∧
      system.stateHandlers = [handler] ∧
      handler.LeavesTracked (Example.reading 4) (Example.retract "b") (Xmpp.new Example.login) := by
  have reached : run CallSystem.step
      (Example.answered.take 2 ++ [.signalEvent (Example.readings 3)
        (Example.activeCall "a" "call" .confirmed) false]) (CallSystem.new Example.login) =
    some _ := rfl
  refine ⟨_, _, reached, rfl, ?_⟩
  exact (CallHandler.leavesTracked_iff (by decide) rfl (by decide) (by decide) (Example.reading 4)
    (Xmpp.new Example.login)).mpr
      (Or.inr fun other found => Option.some.inj (found.symm.trans (by decide)))

end JnTapi
