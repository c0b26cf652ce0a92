/-
This file proves that the worker threads of `CThreadPoolMgr` miss no request and never
run idle for long.

Each step of a worker or of a call of `Add` uses up some of the work that the requests
have brought, so that the threads take at most a fixed number of steps for each request.
A request in the queue is never left alone: `m_evtRequest` is set, or a thread is still
to look into the queue, or the call of `Add` is still to set the event.
-/

import Mathlib.Algebra.GroupWithZero.Nat
import Mathlib.Algebra.Order.Group.Nat
import JnTapi.Tsp.PoolOrder

namespace JnTapi

open Library

variable {Conn Key Req : Type*}

/-! ### The work that is left -/

/-- What is left to do for a worker thread until it waits with the event unset -/
def RunnerControl.work : RunnerControl Conn Key Req → Nat
  | .ended => 0
  | .waiting => 1
  | .scanning => 2
  | .looking => 4
  | .testing => 5
  | .left => 6
  | .leaving _ => 7
  | .deleting _ => 8
  | .receiving _ => 9
  | .taken _ => 10

/-- What is left to do for a call of `Add`, and what its request will bring -/
def AddControl.work : AddControl Conn Key Req → Nat
  | .returned => 0
  | .signalling _ => 3
  | .storing _ _ => 4
  | .counting _ => 5
  | .spawning _ => 11
  | .checking _ => 12
  | .adding _ => 24

/-- The thread is neither in its wait nor ended. -/
def RunnerControl.busy : RunnerControl Conn Key Req → Bool
  | .waiting | .ended => false
  | .testing | .looking | .scanning | .taken _ | .receiving _ | .deleting _ | .leaving _
  | .left => true

/-- The call has put its request into the queue, and not returned yet. -/
def AddControl.signals : AddControl Conn Key Req → Bool
  | .checking iSize | .spawning iSize | .counting iSize | .storing iSize _
  | .signalling iSize => 0 < iSize
  | .adding _ | .returned => false

/-- The action is a step of a worker thread or of a call of `Add`. -/
def PoolAction.byThread : PoolAction Conn Key Req → Bool
  | .adder _ _ | .runner _ _ => true
  | .add _ _ _ | .signalShutdown | .destroy => false

/-- The action is a call of `Add`. -/
def PoolAction.isAdd : PoolAction Conn Key Req → Bool
  | .add _ _ _ => true
  | .adder _ _ | .runner _ _ | .signalShutdown | .destroy => false

namespace CThreadPoolMgr

/-- What is left to do -/
def work (pool : CThreadPoolMgr Conn Key Req) : Nat :=
  (pool.runners.map RunnerControl.work).sum + (pool.adders.map AddControl.work).sum +
    11 * pool.lstRequests.length + if pool.evtRequest then 2 else 0

variable [DecidableEq Key]

/-- A worker thread uses up work. -/
theorem work_runnerStep {pool after : CThreadPoolMgr Conn Key Req} {throws : Bool}
    {control moved : RunnerControl Conn Key Req}
    (stepped : pool.runnerStep throws control = some (moved, after)) :
    moved.work + 11 * after.lstRequests.length + (if after.evtRequest then 2 else 0) <
      control.work + 11 * pool.lstRequests.length + if pool.evtRequest then 2 else 0 := by
  cases control with
  | testing =>
    cases stepped
    cases pool.shutdown <;> simp [RunnerControl.work]
  | looking =>
    cases stepped
    have bound : (if (pool.evtRequest || !pool.lstRequests.isEmpty) = true then 2 else 0) ≤ 2 := by
      split <;> omega
    simp only [RunnerControl.work]
    omega
  | waiting =>
    rw [runnerStep] at stepped
    split at stepped
    · cases stepped
      simp [RunnerControl.work]
    · split at stepped
      · next set =>
        cases stepped
        simp only [RunnerControl.work, set, if_true, Bool.false_eq_true, if_false]
        omega
      · cases stepped
  | scanning =>
    rw [runnerStep] at stepped
    split at stepped
    · cases stepped
      simp [RunnerControl.work]
    · next pmReq rest found =>
      cases stepped
      obtain ⟨front, back, queue, rfl, -⟩ := findAvailable_eq_some found
      have bound : (if (pool.evtRequest || !(front ++ back).isEmpty) = true then 2 else 0) ≤ 2 := by
        split <;> omega
      simp only [RunnerControl.work, queue, List.length_append, List.length_cons]
      omega
  | receiving pmReq =>
    cases stepped
    cases throws <;> simp [RunnerControl.work]
  | taken | deleting | leaving | left =>
    cases stepped
    simp [RunnerControl.work]
  | ended => cases stepped

omit [DecidableEq Key] in
/-- A call of `Add` uses up work. -/
theorem work_adderStep {pool after : CThreadPoolMgr Conn Key Req} {created : Bool}
    {control moved : AddControl Conn Key Req}
    (stepped : pool.adderStep created control = some (moved, after)) :
    moved.work + (after.runners.map RunnerControl.work).sum + 11 * after.lstRequests.length +
        (if after.evtRequest then 2 else 0) <
      control.work + (pool.runners.map RunnerControl.work).sum + 11 * pool.lstRequests.length +
        if pool.evtRequest then 2 else 0 := by
  cases control with
  | adding pReq =>
    cases stepped
    simp only [AddControl.work, List.length_append, List.length_singleton]
    omega
  | checking iSize =>
    cases stepped
    cases pool.checkForThreadCreate iSize <;> simp [AddControl.work]
  | spawning iSize =>
    cases created with
    | false =>
      cases stepped
      simp [AddControl.work]
    | true =>
      cases stepped
      simp only [AddControl.work, RunnerControl.work, List.map_append, List.sum_append,
        List.map_singleton, List.sum_singleton]
      omega
  | counting | storing =>
    cases stepped
    simp [AddControl.work]
  | signalling iSize =>
    cases stepped
    simp only [AddControl.work]
    split
    · simp only [if_true]
      omega
    · omega
  | returned => cases stepped

/-- A step of a thread uses up work, and only a call of `Add` brings work in. -/
theorem work_step {pool next : CThreadPoolMgr Conn Key Req} {action : PoolAction Conn Key Req}
    (stepped : pool.step action = some next) :
    (if action.byThread then 1 else 0) + next.work ≤
      pool.work + 24 * if action.isAdd then 1 else 0 := by
  obtain ⟨-, acted⟩ := step_eq_some.mp stepped
  cases action with
  | runner index throws =>
    obtain ⟨control, found, moved, after, moves, rfl⟩ := act_runner_eq_some.mp acted
    obtain ⟨sameRunners, sameAdders, -⟩ := runnerStep_frame moves
    have less := work_runnerStep moves
    have weights := sum_map_set found RunnerControl.work moved
    simp only [work, sameRunners, sameAdders, PoolAction.byThread, PoolAction.isAdd, if_true,
      Bool.false_eq_true, if_false]
    omega
  | adder index created =>
    obtain ⟨control, found, moved, after, moves, rfl⟩ := act_adder_eq_some.mp acted
    obtain ⟨-, -, -, sameAdders, -⟩ := adderStep_frame moves
    have less := work_adderStep moves
    have weights := sum_map_set found AddControl.work moved
    simp only [work, sameAdders, PoolAction.byThread, PoolAction.isAdd, if_true,
      Bool.false_eq_true, if_false]
    omega
  | add pConn key request =>
    cases pConn with
    | none =>
      cases acted
      simp [PoolAction.byThread]
    | some pConn =>
      cases acted
      simp only [work, PoolAction.byThread, PoolAction.isAdd, List.map_append, List.sum_append,
        List.map_singleton, List.sum_singleton, AddControl.work, if_true, Bool.false_eq_true,
        if_false]
      omega
  | signalShutdown =>
    cases acted
    simp [PoolAction.byThread, work]
  | destroy =>
    cases acted
    simp only [work, PoolAction.byThread, PoolAction.isAdd, List.length_nil, Bool.false_eq_true,
      if_false]
    omega

/-- The threads take at most 24 steps for each call of `Add`. -/
theorem work_run {pool last : CThreadPoolMgr Conn Key Req}
    {actions : List (PoolAction Conn Key Req)} (reached : run step actions pool = some last) :
    actions.countP PoolAction.byThread + last.work ≤
      pool.work + 24 * actions.countP PoolAction.isAdd := by
  induction actions generalizing pool with
  | nil =>
    obtain rfl : pool = last := Option.some.inj reached
    simp
  | cons action rest inductionHypothesis =>
    obtain ⟨next, stepped, remaining⟩ := run_cons_eq_some.mp reached
    have first := work_step stepped
    have others := inductionHypothesis remaining
    rw [List.countP_cons, List.countP_cons, Nat.mul_add]
    omega


/-! ### No request is left alone -/

omit [DecidableEq Key] in
/-- Something is still to happen. -/
def Watched (pool : CThreadPoolMgr Conn Key Req) : Prop :=
  pool.evtRequest = true ∨ (∃ control ∈ pool.runners, control.busy = true) ∨
    ∃ control ∈ pool.adders, control.signals = true

omit [DecidableEq Key] in
/-- While there is no shutdown, no thread has ended, and something is still to happen when there is
a request in the queue. -/
structure Awake (pool : CThreadPoolMgr Conn Key Req) : Prop where
  live : ∀ control ∈ pool.runners, control ≠ .ended
  watched : pool.lstRequests ≠ [] → pool.Watched

omit [DecidableEq Key] in
theorem awake_new (iMaxThreadCount : Nat) :
    (new iMaxThreadCount : CThreadPoolMgr Conn Key Req).Awake :=
  ⟨fun _ member => absurd member List.not_mem_nil, fun some => absurd rfl some⟩

omit [DecidableEq Key] in
/-- While there is no shutdown, a thread does not end. -/
theorem live_set {runners : List (RunnerControl Conn Key Req)} {index : Nat}
    {control moved : RunnerControl Conn Key Req} (live : ∀ control ∈ runners, control ≠ .ended)
    (found : runners[index]? = some control) (goesOn : moved ≠ .ended) :
    ∀ control ∈ runners.set index moved, control ≠ .ended := by
  obtain ⟨front, back, rfl, -, set⟩ := exists_around found
  intro other member
  rw [set] at member
  simp only [List.mem_append, List.mem_cons] at member live
  rcases member with left | rfl | right
  · exact live other (Or.inl left)
  · exact goesOn
  · exact live other (Or.inr (Or.inr right))

/-- When a thread finds no request that can be run, another thread has a key. -/
theorem Exclusive.exists_busy {pool : CThreadPoolMgr Conn Key Req} (exclusive : pool.Exclusive)
    (none : findAvailable pool.mapRunning pool.lstRequests = none) (queued : pool.lstRequests ≠ []) :
    ∃ control ∈ pool.runners, control.busy = true ∧ control ≠ .scanning := by
  obtain ⟨pmReq, rest, queue⟩ := List.exists_cons_of_ne_nil queued
  have taken := findAvailable_eq_none none pmReq (queue ▸ List.mem_cons_self)
  rcases exclusive pmReq.key with ⟨free, -⟩ | ⟨-, other, single⟩
  · exact absurd free taken
  · have member : other ∈ pool.runners.flatMap RunnerControl.held := by
      refine List.mem_of_mem_filter (p := fun pmReq' => pmReq'.key = pmReq.key) ?_
      rw [← onKey, single]
      exact List.mem_singleton_self other
    obtain ⟨control, inside, held⟩ := List.mem_flatMap.mp member
    refine ⟨control, inside, ?_⟩
    cases control <;> simp [RunnerControl.held] at held <;> simp [RunnerControl.busy]

omit [DecidableEq Key] in
/-- Another thread than the one that moves is still busy. -/
theorem watched_of_other {runners : List (RunnerControl Conn Key Req)} {index : Nat}
    {control moved other : RunnerControl Conn Key Req} (found : runners[index]? = some control)
    (member : other ∈ runners) (busy : other.busy = true) (different : other ≠ control) :
    ∃ control ∈ runners.set index moved, control.busy = true :=
  ⟨other, mem_set_of_ne found member different, busy⟩

/-- A worker thread that is not told to end stays busy, or waits for the event that is set, or there
is nothing in the queue, or it has found no request that can be run. -/
theorem runnerStep_busy {pool after : CThreadPoolMgr Conn Key Req} {throws : Bool}
    {control moved : RunnerControl Conn Key Req} (running : pool.shutdown = false)
    (stepped : pool.runnerStep throws control = some (moved, after)) :
    moved.busy = true ∨ moved = .waiting ∧ (after.evtRequest = true ∨ after.lstRequests = [] ∨
      control = .scanning ∧ after = pool ∧
        findAvailable pool.mapRunning pool.lstRequests = none) := by
  cases control with
  | testing =>
    cases stepped
    rw [running]
    exact Or.inl rfl
  | looking =>
    cases stepped
    refine Or.inr ⟨rfl, ?_⟩
    cases queue : pool.lstRequests with
    | nil => exact Or.inr (Or.inl rfl)
    | cons first rest => exact Or.inl (Bool.or_true _)
  | waiting =>
    rw [runnerStep, running] at stepped
    split at stepped
    · next ended => cases ended
    · split at stepped
      · cases stepped
        exact Or.inl rfl
      · cases stepped
  | scanning =>
    rw [runnerStep] at stepped
    split at stepped
    · next none =>
      cases stepped
      exact Or.inr ⟨rfl, Or.inr (Or.inr ⟨rfl, rfl, none⟩)⟩
    · cases stepped
      exact Or.inl rfl
  | receiving pmReq =>
    cases stepped
    cases throws <;> exact Or.inl rfl
  | taken | deleting | leaving | left =>
    cases stepped
    exact Or.inl rfl
  | ended => cases stepped

/-- A step of a worker thread leaves something to happen. -/
theorem Awake.runner {pool after : CThreadPoolMgr Conn Key Req} {index : Nat} {throws : Bool}
    {control moved : RunnerControl Conn Key Req} (awake : pool.Awake) (exclusive : pool.Exclusive)
    (running : pool.shutdown = false) (found : pool.runners[index]? = some control)
    (stepped : pool.runnerStep throws control = some (moved, after)) :
    Awake { after with runners := after.runners.set index moved } := by
  have found' : after.runners[index]? = some control := (runnerStep_frame stepped).1 ▸ found
  have live : ∀ control ∈ after.runners, control ≠ .ended :=
    (runnerStep_frame stepped).1 ▸ awake.live
  rcases runnerStep_busy running stepped with busy | ⟨rfl, set | empty | ⟨rfl, rfl, none⟩⟩
  · refine ⟨live_set live found' fun ended => ?_, fun _ => ?_⟩
    · rw [ended] at busy
      cases busy
    · exact Or.inr (Or.inl ⟨moved, mem_set_self found' moved, busy⟩)
  · exact ⟨live_set live found' (by simp), fun _ => Or.inl set⟩
  · exact ⟨live_set live found' (by simp), fun queued => absurd empty queued⟩
  · refine ⟨live_set live found' (by simp), fun queued => ?_⟩
    obtain ⟨other, member, busy, different⟩ := exclusive.exists_busy none queued
    exact Or.inr (Or.inl (watched_of_other found' member busy different))

omit [DecidableEq Key] in
/-- A call of `Add` that has put its request into the queue sets the event before it returns. -/
theorem adderStep_signals {pool after : CThreadPoolMgr Conn Key Req} {created : Bool}
    {control moved : AddControl Conn Key Req}
    (stepped : pool.adderStep created control = some (moved, after))
    (signals : control.signals = true ∨ control.pending ≠ []) :
    moved.signals = true ∨ after.evtRequest = true := by
  cases control with
  | adding pReq =>
    cases stepped
    exact Or.inl (decide_eq_true (Nat.succ_pos pool.lstRequests.length))
  | checking iSize =>
    have positive := signals.resolve_right fun some => some rfl
    cases stepped
    cases pool.checkForThreadCreate iSize <;> exact Or.inl positive
  | spawning iSize =>
    have positive := signals.resolve_right fun some => some rfl
    cases created <;> cases stepped <;> exact Or.inl positive
  | counting iSize | storing iSize =>
    have positive := signals.resolve_right fun some => some rfl
    cases stepped
    exact Or.inl positive
  | signalling iSize =>
    have positive := signals.resolve_right fun some => some rfl
    cases stepped
    rw [if_pos (of_decide_eq_true positive)]
    exact Or.inr rfl
  | returned => cases stepped

omit [DecidableEq Key] in
/-- A call of `Add` does not reset the event. -/
theorem adderStep_keeps_event {pool after : CThreadPoolMgr Conn Key Req} {created : Bool}
    {control moved : AddControl Conn Key Req}
    (stepped : pool.adderStep created control = some (moved, after))
    (set : pool.evtRequest = true) : after.evtRequest = true := by
  cases control with
  | spawning iSize => cases created <;> cases stepped <;> exact set
  | signalling iSize =>
    cases stepped
    split
    · rfl
    · exact set
  | adding | checking | counting | storing =>
    cases stepped
    exact set
  | returned => cases stepped

omit [DecidableEq Key] in
/-- A step of a call of `Add` leaves something to happen. -/
theorem Awake.adder {pool after : CThreadPoolMgr Conn Key Req} {index : Nat} {created : Bool}
    {control moved : AddControl Conn Key Req} (awake : pool.Awake)
    (found : pool.adders[index]? = some control)
    (stepped : pool.adderStep created control = some (moved, after)) :
    Awake { after with adders := after.adders.set index moved } := by
  obtain ⟨queue, -, -, sameAdders, -, -, runners⟩ := adderStep_frame stepped
  have stays : ∀ control ∈ pool.runners, control ∈ after.runners := by
    intro control member
    rcases runners with same | more
    · exact same ▸ member
    · exact more ▸ List.mem_append_left _ member
  refine ⟨?_, fun queued => ?_⟩
  · rcases runners with same | more
    · exact same ▸ awake.live
    · simp only [more, List.mem_append, List.mem_singleton]
      rintro control (before | rfl)
      · exact awake.live control before
      · simp
  · by_cases signals : control.signals = true ∨ control.pending ≠ []
    · rcases adderStep_signals stepped signals with still | set
      · exact Or.inr (Or.inr ⟨moved, mem_set_self (sameAdders ▸ found) moved, still⟩)
      · exact Or.inl set
    · -- The call has no part in it, so what was to happen still is.
      rw [not_or, not_not] at signals
      obtain ⟨silent, nothing⟩ := signals
      have before : pool.lstRequests ≠ [] := by
        intro empty
        simp only [queue, empty, nothing, List.append_nil, ne_eq, not_true_eq_false] at queued
      rcases awake.watched before with set | ⟨other, member, busy⟩ | ⟨other, member, active⟩
      · have kept := adderStep_keeps_event stepped set
        exact Or.inl kept
      · exact Or.inr (Or.inl ⟨other, stays other member, busy⟩)
      · refine Or.inr (Or.inr ⟨other, ?_, active⟩)
        refine mem_set_of_ne (sameAdders ▸ found) (sameAdders ▸ member) fun same => ?_
        exact silent (same ▸ active)

/-- Every step leaves something to happen, while there is no shutdown. -/
theorem Awake.step {pool next : CThreadPoolMgr Conn Key Req} {action : PoolAction Conn Key Req}
    (awake : pool.shutdown = false → pool.Awake) (exclusive : pool.Exclusive)
    (stepped : pool.step action = some next) : next.shutdown = false → next.Awake := by
  obtain ⟨-, acted⟩ := step_eq_some.mp stepped
  intro running
  cases action with
  | runner index throws =>
    obtain ⟨control, found, moved, after, moves, rfl⟩ := act_runner_eq_some.mp acted
    have before : pool.shutdown = false := (runnerStep_frame moves).2.2.1 ▸ running
    exact (awake before).runner exclusive before found moves
  | adder index created =>
    obtain ⟨control, found, moved, after, moves, rfl⟩ := act_adder_eq_some.mp acted
    have before : pool.shutdown = false := (adderStep_frame moves).2.2.2.2.1 ▸ running
    exact (awake before).adder found moves
  | add pConn key request =>
    cases pConn with
    | none =>
      cases acted
      exact awake running
    | some pConn =>
      cases acted
      refine ⟨(awake running).live, fun queued => ?_⟩
      rcases (awake running).watched queued with set | busy | ⟨other, member, active⟩
      · exact Or.inl set
      · exact Or.inr (Or.inl busy)
      · exact Or.inr (Or.inr ⟨other, List.mem_append_left _ member, active⟩)
  | signalShutdown =>
    cases acted
    cases running
  | destroy =>
    cases acted
    exact ⟨(awake running).live, fun queued => absurd rfl queued⟩

theorem awake_of_run {iMaxThreadCount : Nat} {actions : List (PoolAction Conn Key Req)}
    {pool : CThreadPoolMgr Conn Key Req}
    (reached : run CThreadPoolMgr.step actions (new iMaxThreadCount) = some pool)
    (running : pool.shutdown = false) : pool.Awake := by
  refine run_history (motive := fun _ pool => pool.shutdown = false → pool.Awake)
    (fun _ => awake_new iMaxThreadCount) ?_ reached running
  intro past middle action next reachedMiddle stepped before
  exact Awake.step before (delivers_of_run reachedMiddle).exclusive stepped

/-! ### When nothing can move -/

/-- No worker thread and no call of `Add` can take a step. -/
def Stuck (pool : CThreadPoolMgr Conn Key Req) : Prop :=
  ∀ index flag, pool.step (.runner index flag) = none ∧ pool.step (.adder index flag) = none

omit [DecidableEq Key] in
theorem adderStep_ne_none (pool : CThreadPoolMgr Conn Key Req) (created : Bool)
    {control : AddControl Conn Key Req} (goesOn : control ≠ .returned) :
    pool.adderStep created control ≠ none := by
  cases control with
  | returned => exact absurd rfl goesOn
  | spawning => cases created <;> simp [adderStep]
  | adding | checking | counting | storing | signalling => simp [adderStep]

theorem runnerStep_ne_none {pool : CThreadPoolMgr Conn Key Req} (throws : Bool)
    {control : RunnerControl Conn Key Req} (live : control ≠ .ended)
    (moves : control ≠ .waiting ∨ pool.evtRequest = true) :
    pool.runnerStep throws control ≠ none := by
  cases control with
  | ended => exact absurd rfl live
  | waiting =>
    rw [runnerStep, moves.resolve_left (not_not.mpr rfl)]
    split
    · exact Option.some_ne_none _
    · exact Option.some_ne_none _
  | scanning =>
    rw [runnerStep]
    split <;> exact Option.some_ne_none _
  | testing | looking | taken | receiving | deleting | leaving | left => simp [runnerStep]

/-- Where nothing can move, all threads wait, and all calls of `Add` have returned. -/
theorem Stuck.waiting {pool : CThreadPoolMgr Conn Key Req} (stuck : pool.Stuck)
    (alive : pool.destroyed = false) (live : ∀ control ∈ pool.runners, control ≠ .ended) :
    (∀ control ∈ pool.runners, control = .waiting ∧ pool.evtRequest = false) ∧
      ∀ control ∈ pool.adders, control = .returned := by
  constructor
  · intro control member
    obtain ⟨index, bound, found⟩ := List.getElem_of_mem member
    have blocked := (stuck index false).1
    rw [step, alive, if_neg Bool.false_ne_true, act, List.getElem?_eq_getElem bound, found,
      Option.bind_some, Option.map_eq_none_iff] at blocked
    by_contra moves
    refine runnerStep_ne_none false (live control member) ?_ blocked
    rw [not_and_or, Bool.not_eq_false] at moves
    exact moves
  · intro control member
    obtain ⟨index, bound, found⟩ := List.getElem_of_mem member
    have blocked := (stuck index false).2
    rw [step, alive, if_neg Bool.false_ne_true, act, List.getElem?_eq_getElem bound, found,
      Option.bind_some, Option.map_eq_none_iff] at blocked
    by_contra goesOn
    exact adderStep_ne_none pool false goesOn blocked

/-- Lists that have the same requests for each key have the same requests. -/
theorem perm_of_onKey {first second : List (TPoolRequest Conn Key Req)}
    (same : ∀ key, onKey key first = onKey key second) : first.Perm second := by
  classical
  refine List.perm_iff_count.mpr fun pmReq => ?_
  have counted : ∀ requests : List (TPoolRequest Conn Key Req),
      (onKey pmReq.key requests).count pmReq = requests.count pmReq := fun requests =>
    List.count_filter (decide_eq_true rfl)
  rw [← counted first, same, counted second]

/-- The threads take at most 24 steps for each call of `Add`. When none of them can take another
step, although there is a worker thread and no shutdown, `ReceiveData` has got all the requests that
have come into the queue. -/
theorem all_received {iMaxThreadCount : Nat} {actions : List (PoolAction Conn Key Req)}
    {pool : CThreadPoolMgr Conn Key Req}
    (reached : run step actions (new iMaxThreadCount) = some pool) :
    actions.countP PoolAction.byThread ≤ 24 * actions.countP PoolAction.isAdd ∧
      (pool.Stuck → pool.destroyed = false → pool.shutdown = false → pool.runners ≠ [] →
        pool.lstRequests = [] ∧
          (outputs step received actions (new iMaxThreadCount)).Perm
            (outputs step added actions (new iMaxThreadCount))) := by
  have bounded := work_run reached
  refine ⟨by simpa [work, new] using (Nat.le_add_right _ _).trans bounded, ?_⟩
  intro stuck alive running threads
  have awake := awake_of_run reached running
  have delivers := delivers_of_run reached
  obtain ⟨waiting, returned⟩ := stuck.waiting alive awake.live
  have empty : pool.lstRequests = [] := by
    by_contra queued
    rcases awake.watched queued with set | ⟨other, member, busy⟩ | ⟨other, member, signals⟩
    · obtain ⟨control, rest, some⟩ := List.exists_cons_of_ne_nil threads
      have unset := (waiting control (some ▸ List.mem_cons_self)).2
      cases set.symm.trans unset
    · rw [(waiting other member).1] at busy
      cases busy
    · rw [returned other member] at signals
      cases signals
  refine ⟨empty, perm_of_onKey fun key => ?_⟩
  have idle : pool.runners.flatMap RunnerControl.pending = [] := by
    refine List.flatMap_eq_nil_iff.mpr fun control member => ?_
    rw [(waiting control member).1]
    rfl
  have order := delivers.inOrder key
  rw [idle, empty, delivers.kept alive] at order
  simpa only [onKey_nil, List.append_nil] using order

end CThreadPoolMgr

namespace Example

/-- Both threads go on until they wait. -/
def poolDone : List (PoolAction Unit Nat Nat) :=
  poolInterleaved ++ poolRuns 1 7 ++ poolRuns 0 16

end Example

namespace CThreadPoolMgr

/-- Where nothing can move, the three requests were received. -/
theorem all_received_poolDone :
    ∃ pool : CThreadPoolMgr Unit Nat Nat, run step Example.poolDone (new 4) = some pool ∧
      Example.poolDone.countP PoolAction.byThread = 48 ∧
      (outputs step received Example.poolDone (new 4)).Perm
        (outputs step added Example.poolDone (new 4)) := by
  have reached : run step Example.poolDone (new 4) = some _ := rfl
  refine ⟨_, reached, rfl, ((all_received reached).2 ?_ rfl rfl (by simp)).2⟩
  intro index flag
  rcases index with _ | _ | _ | index <;> exact ⟨rfl, rfl⟩

end CThreadPoolMgr

end JnTapi
