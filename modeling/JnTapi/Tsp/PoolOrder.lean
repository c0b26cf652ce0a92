/-
This file proves in which order the worker threads of `CThreadPoolMgr` give the requests
to `ReceiveData`.

However the threads and the callers interleave, a request is given to `ReceiveData` at
most once, the requests of one key are given in the order in which they came into the
queue, and no two of them are worked on at the same time.
-/

import JnTapi.Tsp.PoolMgr

namespace JnTapi

open Library

variable {Conn Key Req : Type*} [DecidableEq Key]

/-! ### The requests of a key -/

/-- The requests with the key -/
def onKey (key : Key) (requests : List (TPoolRequest Conn Key Req)) :
    List (TPoolRequest Conn Key Req) :=
  requests.filter fun pmReq => pmReq.key = key

@[simp] theorem onKey_nil (key : Key) : onKey key ([] : List (TPoolRequest Conn Key Req)) = [] :=
  rfl

@[simp] theorem onKey_append (key : Key) (first second : List (TPoolRequest Conn Key Req)) :
    onKey key (first ++ second) = onKey key first ++ onKey key second :=
  List.filter_append _ _

theorem onKey_cons_self (pmReq : TPoolRequest Conn Key Req)
    (rest : List (TPoolRequest Conn Key Req)) :
    onKey pmReq.key (pmReq :: rest) = pmReq :: onKey pmReq.key rest :=
  List.filter_cons_of_pos (decide_eq_true rfl)

theorem onKey_cons_ne {key : Key} {pmReq : TPoolRequest Conn Key Req} (other : pmReq.key ≠ key)
    (rest : List (TPoolRequest Conn Key Req)) : onKey key (pmReq :: rest) = onKey key rest :=
  List.filter_cons_of_neg (by simpa using other)

theorem onKey_eq_nil {key : Key} {requests : List (TPoolRequest Conn Key Req)}
    (none : ∀ pmReq ∈ requests, pmReq.key ≠ key) : onKey key requests = [] :=
  List.filter_eq_nil_iff.mpr fun pmReq member => by simpa using none pmReq member

omit [DecidableEq Key] in
/-- What a thread has not given to `ReceiveData` yet, it works on. -/
theorem pending_sublist_held (control : RunnerControl Conn Key Req) :
    control.pending.Sublist control.held := by
  cases control <;> simp [RunnerControl.pending, RunnerControl.held]

omit [DecidableEq Key] in
theorem receives_sublist_held (control : RunnerControl Conn Key Req) :
    control.receives.Sublist control.held := by
  cases control <;> simp [RunnerControl.receives, RunnerControl.held]

/-- When no thread has a key, no thread is about to give a request of the key to
`ReceiveData`. -/
theorem onKey_pending_eq_nil {key : Key} {runners : List (RunnerControl Conn Key Req)}
    (free : onKey key (runners.flatMap RunnerControl.held) = []) :
    onKey key (runners.flatMap RunnerControl.pending) = [] := by
  have inside : (onKey key (runners.flatMap RunnerControl.pending)).Sublist
      (onKey key (runners.flatMap RunnerControl.held)) := by
    refine List.Sublist.filter _ ?_
    induction runners with
    | nil => exact List.Sublist.refl []
    | cons control others inductionHypothesis =>
      rw [onKey, List.flatMap_cons, List.filter_append, List.append_eq_nil_iff] at free
      exact (pending_sublist_held control).append (inductionHypothesis free.2)
  rw [free] at inside
  exact List.sublist_nil.mp inside

namespace CThreadPoolMgr

/-! ### One thread at a time works on a key -/

/-- The map has the keys that a thread works on, each of them once. -/
def Exclusive (pool : CThreadPoolMgr Conn Key Req) : Prop :=
  ∀ key, pool.mapRunning key = none ∧ onKey key (pool.runners.flatMap RunnerControl.held) = [] ∨
    pool.mapRunning key = some 1 ∧
      ∃ pmReq, onKey key (pool.runners.flatMap RunnerControl.held) = [pmReq]

/-- What a step of a worker thread does to the map, to the queue and to the requests of the
thread -/
theorem runnerStep_cases {pool after : CThreadPoolMgr Conn Key Req} {throws : Bool}
    {control moved : RunnerControl Conn Key Req}
    (stepped : pool.runnerStep throws control = some (moved, after)) :
    (moved.held = control.held ∧ after.mapRunning = pool.mapRunning ∧
        after.lstRequests = pool.lstRequests ∧
        control.receives ++ moved.pending = control.pending) ∨
      (∃ pmReq, control = .scanning ∧ moved = .taken pmReq ∧
        findAvailable pool.mapRunning pool.lstRequests = some (pmReq, after.lstRequests) ∧
        after.mapRunning = enterKey pool.mapRunning pmReq.key) ∨
      ∃ pmReq, control = .leaving pmReq ∧ moved = .left ∧
        after.mapRunning = leaveKey pool.mapRunning pmReq.key ∧
        after.lstRequests = pool.lstRequests := by
  cases control with
  | testing =>
    cases stepped
    cases pool.shutdown <;> simp [RunnerControl.held, RunnerControl.pending, RunnerControl.receives]
  | looking | taken | deleting | left =>
    cases stepped
    simp [RunnerControl.held, RunnerControl.pending, RunnerControl.receives]
  | waiting =>
    rw [runnerStep] at stepped
    split at stepped
    · cases stepped
      simp [RunnerControl.held, RunnerControl.pending, RunnerControl.receives]
    · split at stepped
      · cases stepped
        simp [RunnerControl.held, RunnerControl.pending, RunnerControl.receives]
      · cases stepped
  | scanning =>
    rw [runnerStep] at stepped
    split at stepped
    · cases stepped
      simp [RunnerControl.held, RunnerControl.pending, RunnerControl.receives]
    · next pmReq rest found =>
      cases stepped
      exact Or.inr (Or.inl ⟨pmReq, rfl, rfl, found, rfl⟩)
  | receiving pmReq =>
    cases stepped
    cases throws <;> simp [RunnerControl.held, RunnerControl.pending, RunnerControl.receives]
  | leaving pmReq =>
    cases stepped
    exact Or.inr (Or.inr ⟨pmReq, rfl, rfl, rfl, rfl⟩)
  | ended => cases stepped

theorem enterKey_self {mapRunning : Key → Option Nat} {key : Key} (free : mapRunning key = none) :
    enterKey mapRunning key key = some 1 := by
  rw [enterKey, Function.update_self, free]

theorem enterKey_ne {mapRunning : Key → Option Nat} {key other : Key} (different : other ≠ key) :
    enterKey mapRunning key other = mapRunning other :=
  Function.update_of_ne different _ _

theorem leaveKey_self {mapRunning : Key → Option Nat} {key : Key}
    (single : mapRunning key = some 1) : leaveKey mapRunning key key = none := by
  simp [leaveKey, single]

theorem leaveKey_ne {mapRunning : Key → Option Nat} {key other : Key} (different : other ≠ key) :
    leaveKey mapRunning key other = mapRunning other := by
  rw [leaveKey]
  cases mapRunning key with
  | none => rfl
  | some count => by_cases single : count = 1 <;> simp [single, Function.update_of_ne different]

theorem exclusive_new (iMaxThreadCount : Nat) :
    (new iMaxThreadCount : CThreadPoolMgr Conn Key Req).Exclusive :=
  fun _ => Or.inl ⟨rfl, rfl⟩

/-- What a worker thread does keeps the keys exclusive. -/
theorem Exclusive.runner {pool after : CThreadPoolMgr Conn Key Req} {index : Nat} {throws : Bool}
    {control moved : RunnerControl Conn Key Req} (exclusive : pool.Exclusive)
    (found : pool.runners[index]? = some control)
    (stepped : pool.runnerStep throws control = some (moved, after)) :
    Exclusive { after with runners := after.runners.set index moved } := by
  intro key
  have sameRunners : after.runners = pool.runners := (runnerStep_frame stepped).1
  have now := exclusive key
  obtain ⟨front, back, around, -, set⟩ := exists_around found
  simp only [sameRunners, set]
  rw [around] at now
  simp only [List.flatMap_append, List.flatMap_cons, onKey_append] at now ⊢
  rcases runnerStep_cases stepped with
    ⟨sameHeld, sameMap, -, -⟩ | ⟨pmReq, rfl, rfl, available, map⟩ | ⟨pmReq, rfl, rfl, map, -⟩
  · rw [sameHeld, sameMap]
    exact now
  · obtain ⟨-, -, -, -, free, -⟩ := findAvailable_eq_some available
    rw [map]
    by_cases same : key = pmReq.key
    · -- The thread gets the key, which no thread has had.
      subst same
      rcases now with ⟨-, empty⟩ | ⟨single, -⟩
      · simp only [RunnerControl.held, onKey_nil, List.nil_append, List.append_eq_nil_iff] at empty
        refine Or.inr ⟨enterKey_self free, pmReq, ?_⟩
        rw [empty.1, empty.2, RunnerControl.held, onKey_cons_self]
        rfl
      · cases free.symm.trans single
    · rw [enterKey_ne same, RunnerControl.held, onKey_cons_ne (Ne.symm same)]
      exact now
  · rw [map]
    by_cases same : key = pmReq.key
    · -- The thread was the one that had the key.
      subst same
      simp only [RunnerControl.held, onKey_cons_self, onKey_nil] at now
      rcases now with ⟨-, empty⟩ | ⟨single, other, alone⟩
      · simp at empty
      · refine Or.inl ⟨leaveKey_self single, ?_⟩
        have lengths := congrArg List.length alone
        simp only [List.length_append, List.length_cons, List.length_nil] at lengths
        rw [RunnerControl.held, onKey_nil, List.nil_append, List.append_eq_nil_iff]
        exact ⟨List.length_eq_zero_iff.mp (by omega), List.length_eq_zero_iff.mp (by omega)⟩
    · rw [RunnerControl.held, onKey_cons_ne (Ne.symm same)] at now
      rw [leaveKey_ne same, RunnerControl.held]
      exact now

/-- A step of a call of `Add` keeps the keys exclusive. -/
theorem Exclusive.adder {pool after : CThreadPoolMgr Conn Key Req} {index : Nat} {created : Bool}
    {control moved : AddControl Conn Key Req} (exclusive : pool.Exclusive)
    (stepped : pool.adderStep created control = some (moved, after)) :
    Exclusive { after with adders := after.adders.set index moved } := by
  obtain ⟨-, -, map, -, -, -, runners⟩ := adderStep_frame stepped
  intro key
  have held : after.runners.flatMap RunnerControl.held =
      pool.runners.flatMap RunnerControl.held := by
    rcases runners with same | more
    · rw [same]
    · rw [more, List.flatMap_append]
      exact List.append_nil _
  have now := exclusive key
  rw [← held, ← map] at now
  exact now

/-! ### The requests of a key are received in order -/

/-- What holds of a pool when these requests came into the queue, `ReceiveData` got these, and the
destructor found these in the queue -/
structure Delivers (addedBefore receivedBefore discardedBefore : List (TPoolRequest Conn Key Req))
    (pool : CThreadPoolMgr Conn Key Req) : Prop where
  exclusive : pool.Exclusive
  /-- Nothing is discarded before the destructor runs. -/
  kept : pool.destroyed = false → discardedBefore = []
  /-- What has come of a key was received, is about to be received, or waits, in this order. -/
  inOrder : ∀ key, onKey key receivedBefore ++
      onKey key (pool.runners.flatMap RunnerControl.pending) ++ onKey key pool.lstRequests ++
      onKey key discardedBefore = onKey key addedBefore

theorem delivers_new (iMaxThreadCount : Nat) :
    Delivers [] [] [] (new iMaxThreadCount : CThreadPoolMgr Conn Key Req) :=
  ⟨exclusive_new iMaxThreadCount, fun _ => rfl, fun _ => rfl⟩

/-- A key that is not in the map is not had by a thread. -/
theorem Exclusive.free {pool : CThreadPoolMgr Conn Key Req} {key : Key}
    (exclusive : pool.Exclusive) (free : pool.mapRunning key = none) :
    onKey key (pool.runners.flatMap RunnerControl.held) = [] := by
  rcases exclusive key with ⟨-, empty⟩ | ⟨single, -⟩
  · exact empty
  · cases free.symm.trans single

/-- The other threads have no request of a key that a thread has. -/
theorem Exclusive.alone {pool : CThreadPoolMgr Conn Key Req}
    {front back : List (RunnerControl Conn Key Req)} {control : RunnerControl Conn Key Req}
    (exclusive : pool.Exclusive) (around : pool.runners = front ++ control :: back) (key : Key) :
    onKey key control.held = [] ∨
      onKey key (front.flatMap RunnerControl.held) = [] ∧
        onKey key (back.flatMap RunnerControl.held) = [] := by
  have single := exclusive key
  rw [around] at single
  simp only [List.flatMap_append, List.flatMap_cons, onKey_append] at single
  rcases single with ⟨-, empty⟩ | ⟨-, other, alone⟩
  · exact Or.inl (List.append_eq_nil_iff.mp (List.append_eq_nil_iff.mp empty).2).1
  · have lengths := congrArg List.length alone
    simp only [List.length_append, List.length_singleton] at lengths
    by_cases here : onKey key control.held = []
    · exact Or.inl here
    · have some : 0 < (onKey key control.held).length := List.length_pos_iff.mpr here
      exact Or.inr ⟨List.length_eq_zero_iff.mp (by omega), List.length_eq_zero_iff.mp (by omega)⟩

/-- What a worker thread does keeps the order. -/
theorem Delivers.runner {pool after : CThreadPoolMgr Conn Key Req} {index : Nat} {throws : Bool}
    {addedBefore receivedBefore : List (TPoolRequest Conn Key Req)}
    {control moved : RunnerControl Conn Key Req}
    (delivers : Delivers addedBefore receivedBefore [] pool)
    (found : pool.runners[index]? = some control)
    (stepped : pool.runnerStep throws control = some (moved, after)) :
    Delivers addedBefore (receivedBefore ++ control.receives) []
      { after with runners := after.runners.set index moved } := by
  refine ⟨delivers.exclusive.runner found stepped, fun _ => rfl, fun key => ?_⟩
  have sameRunners : after.runners = pool.runners := (runnerStep_frame stepped).1
  have order := delivers.inOrder key
  obtain ⟨front, back, around, -, set⟩ := exists_around found
  have alone := delivers.exclusive.alone around key
  simp only [sameRunners, set]
  rw [around] at order
  simp only [List.flatMap_append, List.flatMap_cons, onKey_append, onKey_nil, List.append_nil]
    at order ⊢
  rcases runnerStep_cases stepped with
    ⟨-, -, queue, same⟩ | ⟨pmReq, rfl, rfl, available, -⟩ | ⟨pmReq, rfl, rfl, -, queue⟩
  · rw [queue, ← order, ← same, onKey_append]
    rcases alone with empty | ⟨front_nil, -⟩
    · have none : onKey key control.receives = [] := by
        have inside := (receives_sublist_held control).filter fun pmReq => pmReq.key = key
        rw [← onKey, ← onKey, empty] at inside
        exact List.sublist_nil.mp inside
      rw [none, List.append_nil, List.nil_append]
    · rw [onKey_pending_eq_nil front_nil]
      simp only [List.nil_append, List.append_assoc]
  · obtain ⟨skipped, rest, queue, remaining, free, waiting⟩ := findAvailable_eq_some available
    rw [remaining, ← order, queue]
    simp only [RunnerControl.receives, RunnerControl.pending, onKey_nil, List.nil_append,
      List.append_nil, onKey_append]
    by_cases same : key = pmReq.key
    · -- The requests in front are of other keys, and no other thread has this one.
      subst same
      have others : onKey pmReq.key skipped = [] := onKey_eq_nil fun other member same =>
        waiting other member (same ▸ free)
      have empty := delivers.exclusive.free free
      rw [around, List.flatMap_append, List.flatMap_cons, onKey_append, onKey_append,
        List.append_eq_nil_iff, List.append_eq_nil_iff] at empty
      rw [others, onKey_pending_eq_nil empty.1, onKey_pending_eq_nil empty.2.2, onKey_cons_self,
        onKey_cons_self]
      simp
    · rw [onKey_cons_ne (Ne.symm same), onKey_cons_ne (Ne.symm same)]
      simp
  · rw [queue]
    simpa only [RunnerControl.receives, RunnerControl.pending, onKey_nil, List.append_nil]
      using order

/-- A call of `Add` keeps the order. -/
theorem Delivers.adder {pool after : CThreadPoolMgr Conn Key Req} {index : Nat} {created : Bool}
    {addedBefore receivedBefore : List (TPoolRequest Conn Key Req)}
    {control moved : AddControl Conn Key Req}
    (delivers : Delivers addedBefore receivedBefore [] pool)
    (stepped : pool.adderStep created control = some (moved, after)) :
    Delivers (addedBefore ++ control.pending) receivedBefore []
      { after with adders := after.adders.set index moved } := by
  refine ⟨delivers.exclusive.adder stepped, fun _ => rfl, fun key => ?_⟩
  obtain ⟨queue, -, -, -, -, -, runners⟩ := adderStep_frame stepped
  have pending : after.runners.flatMap RunnerControl.pending =
      pool.runners.flatMap RunnerControl.pending := by
    rcases runners with same | more
    · rw [same]
    · rw [more, List.flatMap_append]
      exact List.append_nil _
  have order := delivers.inOrder key
  simp only [queue, pending, onKey_append, onKey_nil, List.append_nil] at order ⊢
  rw [← order]
  simp only [List.append_assoc]

/-- Every step keeps the order. -/
theorem Delivers.step {pool next : CThreadPoolMgr Conn Key Req} {action : PoolAction Conn Key Req}
    {addedBefore receivedBefore discardedBefore : List (TPoolRequest Conn Key Req)}
    (delivers : Delivers addedBefore receivedBefore discardedBefore pool)
    (stepped : pool.step action = some next) :
    Delivers (addedBefore ++ pool.added action) (receivedBefore ++ pool.received action)
      (discardedBefore ++ pool.discarded action) next := by
  obtain ⟨alive, acted⟩ := step_eq_some.mp stepped
  obtain rfl := delivers.kept alive
  cases action with
  | runner index throws =>
    obtain ⟨control, found, moved, after, moves, rfl⟩ := act_runner_eq_some.mp acted
    have later := delivers.runner found moves
    simpa only [added, received, discarded, found, Option.toList_some, List.flatMap_singleton,
      List.append_nil] using later
  | adder index created =>
    obtain ⟨control, found, moved, after, moves, rfl⟩ := act_adder_eq_some.mp acted
    have later := @Delivers.adder _ _ _ _ _ _ index _ _ _ _ _ delivers moves
    simpa only [added, received, discarded, found, Option.toList_some, List.flatMap_singleton,
      List.append_nil] using later
  | add pConn key request =>
    simp only [added, received, discarded, List.append_nil]
    cases pConn <;> cases acted <;> exact ⟨delivers.exclusive, delivers.kept, delivers.inOrder⟩
  | signalShutdown =>
    simp only [added, received, discarded, List.append_nil]
    cases acted
    exact ⟨delivers.exclusive, delivers.kept, delivers.inOrder⟩
  | destroy =>
    cases acted
    refine ⟨delivers.exclusive, (fun destroyed => by cases destroyed), fun key => ?_⟩
    simpa only [added, received, discarded, List.append_nil, List.nil_append, onKey_nil]
      using delivers.inOrder key

/-- Every run keeps the order. -/
theorem delivers_of_run {iMaxThreadCount : Nat} {actions : List (PoolAction Conn Key Req)}
    {pool : CThreadPoolMgr Conn Key Req}
    (reached : run step actions (new iMaxThreadCount) = some pool) :
    Delivers (outputs step added actions (new iMaxThreadCount))
      (outputs step received actions (new iMaxThreadCount))
      (outputs step discarded actions (new iMaxThreadCount)) pool := by
  refine run_history (motive := fun past pool =>
    Delivers (outputs step added past (new iMaxThreadCount))
      (outputs step received past (new iMaxThreadCount))
      (outputs step discarded past (new iMaxThreadCount)) pool)
    (delivers_new iMaxThreadCount) ?_ reached
  intro past middle action next reachedMiddle stepped delivers
  rw [outputs_snoc reachedMiddle stepped, outputs_snoc reachedMiddle stepped,
    outputs_snoc reachedMiddle stepped]
  exact delivers.step stepped

/-- However the threads interleave, the requests of a key that have come into the queue are those
that `ReceiveData` got, the one that a thread is about to give it, those in the queue and those
that the destructor found there, in this order; and at most one thread works on the key. -/
theorem received_in_order {iMaxThreadCount : Nat} {actions : List (PoolAction Conn Key Req)}
    {pool : CThreadPoolMgr Conn Key Req}
    (reached : run step actions (new iMaxThreadCount) = some pool) (key : Key) :
    onKey key (outputs step received actions (new iMaxThreadCount)) ++
        onKey key (pool.runners.flatMap RunnerControl.pending) ++ onKey key pool.lstRequests ++
        onKey key (outputs step discarded actions (new iMaxThreadCount)) =
      onKey key (outputs step added actions (new iMaxThreadCount)) ∧
    (onKey key (pool.runners.flatMap RunnerControl.held)).length ≤ 1 := by
  have delivers := delivers_of_run reached
  refine ⟨delivers.inOrder key, ?_⟩
  rcases delivers.exclusive key with ⟨-, empty⟩ | ⟨-, pmReq, single⟩
  · rw [empty]
    exact Nat.zero_le 1
  · rw [single]
    exact Nat.le_refl 1

end CThreadPoolMgr

namespace Example

/-- A call of `Add` for the line with the key, from its first step to its last one -/
def poolAdds (index key request steps : Nat) : List (PoolAction Unit Nat Nat) :=
  .add (some ()) key request :: List.replicate steps (.adder index true)

/-- A worker thread takes some steps. -/
def poolRuns (index steps : Nat) : List (PoolAction Unit Nat Nat) :=
  List.replicate steps (.runner index false)

/-- Two requests of one line and one of another; two threads are created. -/
def poolThreeRequests : List (PoolAction Unit Nat Nat) :=
  poolAdds 0 1 10 6 ++ poolAdds 1 1 11 3 ++ poolAdds 2 2 20 6

/-- While the first thread has the first request, the second thread takes the third one. -/
def poolInterleaved : List (PoolAction Unit Nat Nat) :=
  poolThreeRequests ++ poolRuns 0 4 ++ poolRuns 1 6

end Example

namespace CThreadPoolMgr

/-- The second request of the line waits while a thread has the first one. -/
theorem received_in_order_interleaved :
    ∃ pool : CThreadPoolMgr Unit Nat Nat, run step Example.poolInterleaved (new 4) = some pool ∧
      outputs step received Example.poolInterleaved (new 4) = [⟨2, 20, ()⟩] ∧
      pool.runners.flatMap RunnerControl.held = [⟨1, 10, ()⟩, ⟨2, 20, ()⟩] ∧
      [] ++ [⟨1, 10, ()⟩] ++ [⟨1, 11, ()⟩] ++ [] =
        onKey 1 (outputs step added Example.poolInterleaved (new 4)) := by
  have reached : run step Example.poolInterleaved (new 4) = some _ := rfl
  exact ⟨_, reached, rfl, rfl, (received_in_order reached 1).1⟩

end CThreadPoolMgr

end JnTapi
