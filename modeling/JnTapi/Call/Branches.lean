/-
This file models `callBranches`, the branches of one call.

A user may have registered several SIP devices; the server then sends an event
for each of them, with one XMPP id a device. The branches are kept by that id,
and no two of them have the same one: the structure carries this as a field.
-/

import JnTapi.Call.State

namespace JnTapi

/-- `callBranches` -/
structure CallBranches where
  branches : List OnSipCallStateData
  distinct : (branches.map OnSipCallStateData.id).Nodup
deriving DecidableEq, Repr

namespace CallBranches

/-- `callBranches()` -/
def new : CallBranches := ⟨[], List.nodup_nil⟩

/-- `callBranches::_getIdIndex` -/
def getIdIndex (id : TString) (branches : List OnSipCallStateData) : Option Nat :=
  branches.findIdx? fun branch => branch.id = id

/-- `callBranches::HasId` -/
def hasId (id : TString) (branches : CallBranches) : Bool :=
  (getIdIndex id branches.branches).isSome

theorem hasId_iff {id : TString} {branches : CallBranches} :
    branches.hasId id = true ↔ ∃ branch ∈ branches.branches, branch.id = id := by
  simp only [hasId, getIdIndex, List.findIdx?_isSome, List.any_eq_true, decide_eq_true_iff]

theorem hasId_iff_mem {id : TString} {branches : CallBranches} :
    branches.hasId id = true ↔ id ∈ branches.branches.map OnSipCallStateData.id := by
  rw [hasId_iff, List.mem_map]

/-! ### Adding a branch -/

/-- The list that `callBranches::AddBranch` leaves: a branch with the same id is replaced where
it stands, a new one comes last. -/
def added (callData : OnSipCallStateData) (branches : List OnSipCallStateData) :
    List OnSipCallStateData :=
  match getIdIndex callData.id branches with
  | some index => branches.set index callData
  | none => branches ++ [callData]

theorem added_cases (callData : OnSipCallStateData) (branches : List OnSipCallStateData) :
    (∃ before branch after, branches = before ++ branch :: after ∧ branch.id = callData.id ∧
      added callData branches = before ++ callData :: after) ∨
    ((∀ branch ∈ branches, branch.id ≠ callData.id) ∧
      added callData branches = branches ++ [callData]) := by
  rcases found : getIdIndex callData.id branches with _ | index
  · right
    refine ⟨fun branch member same => ?_, by simp only [added, found]⟩
    rw [getIdIndex, List.findIdx?_eq_none_iff] at found
    exact absurd same (of_decide_eq_false (found branch member))
  · left
    have kept : added callData branches = branches.set index callData := by
      simp only [added, found]
    rw [getIdIndex, List.findIdx?_eq_some_iff_getElem] at found
    obtain ⟨inside, same, -⟩ := found
    refine ⟨branches.take index, branches[index], branches.drop (index + 1), ?_,
      of_decide_eq_true same, ?_⟩
    · rw [List.getElem_cons_drop, List.take_append_drop]
    · rw [kept, List.set_eq_take_append_cons_drop, if_pos inside]

theorem ids_added (callData : OnSipCallStateData) (branches : List OnSipCallStateData) :
    (added callData branches).map OnSipCallStateData.id =
      if callData.id ∈ branches.map OnSipCallStateData.id then
        branches.map OnSipCallStateData.id
      else branches.map OnSipCallStateData.id ++ [callData.id] := by
  rcases added_cases callData branches with ⟨before, branch, after, rfl, same, result⟩ | ⟨new, result⟩
  · have member : callData.id ∈ (before ++ branch :: after).map OnSipCallStateData.id :=
      List.mem_map.mpr ⟨branch, List.mem_append_right _ List.mem_cons_self, same⟩
    rw [if_pos member, result]
    simp only [List.map_append, List.map_cons, same]
  · have absent : callData.id ∉ branches.map OnSipCallStateData.id := by
      intro member
      obtain ⟨branch, present, same⟩ := List.mem_map.mp member
      exact new branch present same
    rw [if_neg absent, result, List.map_append, List.map_singleton]

theorem distinct_added (callData : OnSipCallStateData) {branches : List OnSipCallStateData}
    (distinct : (branches.map OnSipCallStateData.id).Nodup) :
    ((added callData branches).map OnSipCallStateData.id).Nodup := by
  rw [ids_added]
  split
  · exact distinct
  · rename_i absent
    refine distinct.append (List.nodup_singleton _) ?_
    intro id earlier last
    exact absent (List.mem_singleton.mp last ▸ earlier)

/-- `callBranches::AddBranch(callData)` -/
def addBranch (callData : OnSipCallStateData) (branches : CallBranches) : CallBranches :=
  ⟨added callData branches.branches, distinct_added callData branches.distinct⟩

/-- The branch that `callBranches::AddBranch` makes of an active-call event. -/
def branchOf (id : TString) (ace : ActiveCall) (callId : Long) (callType : CallType)
    (updateCallerId : Bool) (callSetupId : Option TString) : OnSipCallStateData :=
  { OnSipCallStateData.new with callType := callType }.assignCallStateData id ace callId
    updateCallerId callSetupId

/-- `callBranches::AddBranch(ace, callId, callType, bUpdateCallerId, szCallSetupId)` -/
def addBranchOf (id : TString) (ace : ActiveCall) (callId : Long) (callType : CallType)
    (updateCallerId : Bool) (callSetupId : Option TString) (branches : CallBranches) :
    CallBranches :=
  branches.addBranch (branchOf id ace callId callType updateCallerId callSetupId)

theorem mem_addBranch {callData branch : OnSipCallStateData} {branches : CallBranches}
    (member : branch ∈ (branches.addBranch callData).branches) :
    branch = callData ∨ branch ∈ branches.branches := by
  have inAdded : branch ∈ added callData branches.branches := member
  rcases added_cases callData branches.branches with
    ⟨before, old, after, split, -, result⟩ | ⟨-, result⟩
  · rw [result] at inAdded
    rw [split]
    simp only [List.mem_append, List.mem_cons] at inAdded ⊢
    rcases inAdded with left | same | right
    · exact Or.inr (Or.inl left)
    · exact Or.inl same
    · exact Or.inr (Or.inr (Or.inr right))
  · rw [result] at inAdded
    rcases List.mem_append.mp inAdded with left | last
    · exact Or.inr left
    · exact Or.inl (List.mem_singleton.mp last)

theorem hasId_addBranch {id : TString} {callData : OnSipCallStateData} {branches : CallBranches} :
    (branches.addBranch callData).hasId id = true ↔
      id = callData.id ∨ branches.hasId id = true := by
  rw [hasId_iff_mem, hasId_iff_mem]
  show id ∈ (added callData branches.branches).map OnSipCallStateData.id ↔ _
  rw [ids_added]
  split
  · rename_i present
    constructor
    · exact Or.inr
    · rintro (rfl | member)
      · exact present
      · exact member
  · rw [List.mem_append, List.mem_singleton, or_comm]

/-! ### Removing a branch -/

/-- `callBranches::_removeById` -/
def removeById (id : TString) (branches : CallBranches) : CallBranches :=
  ⟨branches.branches.eraseP fun branch => branch.id = id,
    branches.distinct.sublist (List.eraseP_sublist.map _)⟩

theorem mem_removeById {id : TString} {branch : OnSipCallStateData} {branches : CallBranches}
    (member : branch ∈ (branches.removeById id).branches) : branch ∈ branches.branches :=
  List.mem_of_mem_eraseP member

/-- The ids are distinct, so the first branch with the id is the only one. -/
theorem hasId_removeById (id : TString) (branches : CallBranches) :
    (branches.removeById id).hasId id = false := by
  rw [Bool.eq_false_iff]
  intro present
  obtain ⟨branch, member, same⟩ := hasId_iff.mp present
  have inside : branch ∈ branches.branches.eraseP fun branch => branch.id = id := member
  rcases List.exists_or_eq_self_of_eraseP (fun branch => branch.id = id) branches.branches with
    unchanged | ⟨first, before, after, -, same', split, erased⟩
  · rw [unchanged] at inside
    have found := List.eraseP_eq_self_iff.mp unchanged branch inside
    exact found (decide_eq_true same)
  · rw [erased] at inside
    have distinct := branches.distinct
    rw [split, List.map_append, List.map_cons] at distinct
    have apart := (List.nodup_middle.mp distinct)
    rw [List.nodup_cons, ← List.map_append] at apart
    refine apart.1 (List.mem_map.mpr ⟨branch, inside, ?_⟩)
    rw [same, of_decide_eq_true same']

/-- `callBranches::CheckDroppedCall`: whether the last branch is gone, the data of the call and
the branches that remain -/
def checkDroppedCall (callData : OnSipCallStateData) (droppedId : TString)
    (branches : CallBranches) : Bool × OnSipCallStateData × CallBranches :=
  if !branches.hasId droppedId then (false, callData, branches)
  else
    let branches := branches.removeById droppedId
    match branches.branches with
    | first :: _ => (false, first, branches)
    | [] => (true, callData, branches)

/-- The retract of a branch removes it. Unless it was the last, the data of the call becomes that
of a remaining branch. -/
theorem checkDroppedCall_cases {callData : OnSipCallStateData} {droppedId : TString}
    {branches : CallBranches} (present : branches.hasId droppedId = true) :
    (∃ first ∈ (branches.removeById droppedId).branches,
      branches.checkDroppedCall callData droppedId =
        (false, first, branches.removeById droppedId)) ∨
    ((branches.removeById droppedId).branches = [] ∧
      branches.checkDroppedCall callData droppedId =
        (true, callData, branches.removeById droppedId)) := by
  rcases remaining : (branches.removeById droppedId).branches with _ | ⟨first, rest⟩
  · right
    refine ⟨rfl, ?_⟩
    simp only [checkDroppedCall, present, Bool.not_true, Bool.false_eq_true, if_false, remaining]
  · left
    refine ⟨first, List.mem_cons_self, ?_⟩
    simp only [checkDroppedCall, present, Bool.not_true, Bool.false_eq_true, if_false, remaining]

end CallBranches

end JnTapi
