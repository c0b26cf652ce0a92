/-
This file models `CThreadPoolMgr`, the queue of requests with the threads that work on
them, as its threads and its callers interleave.

A call of `Add` and a worker thread each take their steps one by one: what is done under
`m_csReqLock` is one step, and so is each access of a shared variable outside of it. A
worker looks for the first request whose key no other worker has, and has the key until
`ReceiveData` has returned.
-/

import Mathlib.Data.Multiset.AddSub
import JnTapi.Library.Parties
import JnTapi.Library.Runs

namespace JnTapi

open Library

/-! ### The data -/

section data

variable (Conn Key Req : Type*)

/-- `TPoolRequest` -/
structure TPoolRequest where
  key : Key
  req : Req
  pConn : Conn
deriving DecidableEq, Repr

/-- Where a worker thread stands in `Runner`. -/
inductive RunnerControl
  /-- At the test of the shutdown event in `GetNextAvailableRequest` -/
  | testing
  /-- At the look into the queue before the loop of `GetNextAvailableRequest` -/
  | looking
  /-- In `WaitForMultipleObjects` -/
  | waiting
  /-- The wait has returned for `m_evtRequest`. -/
  | scanning
  /-- `GetNextAvailableRequest` has returned the request. -/
  | taken (pmReq : TPoolRequest Conn Key Req)
  /-- At `ReceiveData` -/
  | receiving (pmReq : TPoolRequest Conn Key Req)
  /-- At `TPM_DelEvent` -/
  | deleting (pmReq : TPoolRequest Conn Key Req)
  /-- At the removal of the key -/
  | leaving (pmReq : TPoolRequest Conn Key Req)
  /-- At the decrement of `m_lRunningThreads` -/
  | left
  | ended
deriving DecidableEq, Repr

/-- Where a call of `Add` stands. -/
inductive AddControl
  /-- At the lock -/
  | adding (pReq : TPoolRequest Conn Key Req)
  /-- At `CheckForThreadCreate` -/
  | checking (iSize : Nat)
  /-- At the creation of the thread in `SpawnWorkerThread` -/
  | spawning (iSize : Nat)
  /-- `SpawnWorkerThread` is to read `m_iWorkerThreads` and to write it, one greater. -/
  | counting (iSize : Nat)
  | storing (iSize iWorkerThreads : Nat)
  /-- At `SetEvent` -/
  | signalling (iSize : Nat)
  | returned
deriving DecidableEq, Repr

/-- `CThreadPoolMgr`, with its threads and the calls of `Add` -/
structure CThreadPoolMgr where
  lstRequests : List (TPoolRequest Conn Key Req)
  mapRunning : Key → Option Nat
  /-- `m_evtRequest` is set. -/
  evtRequest : Bool
  iWorkerThreads : Nat
  iMaxThreadCount : Nat
  lRunningThreads : Int
  /-- The threads of `m_arrThreads` -/
  runners : List (RunnerControl Conn Key Req)
  adders : List (AddControl Conn Key Req)
  /-- The shutdown event of the service provider is set. -/
  shutdown : Bool
  /-- The destructor has run. -/
  destroyed : Bool

/-- One step of a caller, of a worker thread, or of the service provider. -/
inductive PoolAction
  /-- `Add` is called. -/
  | add (pConn : Option Conn) (key : Key) (request : Req)
  /-- A call of `Add` takes its next step; whether a thread can be created. -/
  | adder (index : Nat) (created : Bool)
  /-- A worker thread takes its next step; whether `ReceiveData` throws. -/
  | runner (index : Nat) (throws : Bool)
  /-- The shutdown event is set. -/
  | signalShutdown
  /-- `~CThreadPoolMgr` -/
  | destroy

end data

variable {Conn Key Req : Type*}

/-- The request that the thread works on: its key is in `m_mapRunning` for it. -/
def RunnerControl.held : RunnerControl Conn Key Req → List (TPoolRequest Conn Key Req)
  | .taken pmReq | .receiving pmReq | .deleting pmReq | .leaving pmReq => [pmReq]
  | .testing | .looking | .waiting | .scanning | .left | .ended => []

/-- The request that the thread has taken and not given to `ReceiveData` yet -/
def RunnerControl.pending : RunnerControl Conn Key Req → List (TPoolRequest Conn Key Req)
  | .taken pmReq | .receiving pmReq => [pmReq]
  | .deleting _ | .leaving _ | .testing | .looking | .waiting | .scanning | .left | .ended => []

/-- The request that `ReceiveData` gets in the next step of the thread -/
def RunnerControl.receives : RunnerControl Conn Key Req → List (TPoolRequest Conn Key Req)
  | .receiving pmReq => [pmReq]
  | .taken _ | .deleting _ | .leaving _ | .testing | .looking | .waiting | .scanning | .left
  | .ended => []

/-- The request whose data the thread is still to delete or to leave behind -/
def RunnerControl.owned : RunnerControl Conn Key Req → List (TPoolRequest Conn Key Req)
  | .taken pmReq | .receiving pmReq | .deleting pmReq => [pmReq]
  | .leaving _ | .testing | .looking | .waiting | .scanning | .left | .ended => []

/-- The request that the call is still to put into the queue -/
def AddControl.pending : AddControl Conn Key Req → List (TPoolRequest Conn Key Req)
  | .adding pReq => [pReq]
  | .checking _ | .spawning _ | .counting _ | .storing _ _ | .signalling _ | .returned => []

namespace CThreadPoolMgr

/-- `CThreadPoolMgr()` -/
def new (iMaxThreadCount : Nat) : CThreadPoolMgr Conn Key Req :=
  ⟨[], fun _ => none, false, 0, iMaxThreadCount, 0, [], [], false, false⟩

/-- `CreationThreshold` -/
def creationThreshold : Nat := 2

/-- `CheckForThreadCreate` -/
def checkForThreadCreate (pool : CThreadPoolMgr Conn Key Req) (nQueued : Nat) : Bool :=
  pool.iWorkerThreads = 0 ||
    (creationThreshold < nQueued && pool.iWorkerThreads ≤ pool.lRunningThreads + 1) &&
      pool.iWorkerThreads < pool.iMaxThreadCount

/-- `TPM_CanRunEvent` -/
def tpmCanRunEvent (_request : Req) (_key : Key) (fSynchKeyIsLocked : Bool) : Bool :=
  fSynchKeyIsLocked = false

/-- The first request that can be run, and the others -/
def findAvailable (mapRunning : Key → Option Nat) : List (TPoolRequest Conn Key Req) →
    Option (TPoolRequest Conn Key Req × List (TPoolRequest Conn Key Req))
  | [] => none
  | pmReq :: rest =>
    if tpmCanRunEvent pmReq.req pmReq.key (mapRunning pmReq.key).isSome then some (pmReq, rest)
    else (findAvailable mapRunning rest).map fun found => (found.1, pmReq :: found.2)

variable [DecidableEq Key]

/-- The map with one more thread on the key -/
def enterKey (mapRunning : Key → Option Nat) (key : Key) : Key → Option Nat :=
  Function.update mapRunning key
    (match mapRunning key with
      | some count => some (count + 1)
      | none => some 1)

/-- The map with one thread fewer on the key -/
def leaveKey (mapRunning : Key → Option Nat) (key : Key) : Key → Option Nat :=
  match mapRunning key with
  | none => mapRunning
  | some count =>
    if count = 1 then Function.update mapRunning key none
    else Function.update mapRunning key (some (count - 1))

/-- The next step of a worker thread -/
def runnerStep (pool : CThreadPoolMgr Conn Key Req) (throws : Bool) :
    RunnerControl Conn Key Req → Option (RunnerControl Conn Key Req × CThreadPoolMgr Conn Key Req)
  | .testing => some (if pool.shutdown then .ended else .looking, pool)
  | .looking =>
    some (.waiting, { pool with evtRequest := pool.evtRequest || !pool.lstRequests.isEmpty })
  | .waiting =>
    if pool.shutdown then some (.ended, pool)
    else if pool.evtRequest then some (.scanning, { pool with evtRequest := false })
    else none
  | .scanning =>
    match findAvailable pool.mapRunning pool.lstRequests with
    | none => some (.waiting, pool)
    | some (pmReq, rest) =>
      some (.taken pmReq, { pool with
        lstRequests := rest
        mapRunning := enterKey pool.mapRunning pmReq.key
        evtRequest := pool.evtRequest || !rest.isEmpty })
  | .taken pmReq =>
    some (.receiving pmReq, { pool with lRunningThreads := pool.lRunningThreads + 1 })
  | .receiving pmReq => some (if throws then .leaving pmReq else .deleting pmReq, pool)
  | .deleting pmReq => some (.leaving pmReq, pool)
  | .leaving pmReq =>
    some (.left, { pool with mapRunning := leaveKey pool.mapRunning pmReq.key })
  | .left => some (.testing, { pool with lRunningThreads := pool.lRunningThreads - 1 })
  | .ended => none

omit [DecidableEq Key] in
/-- The next step of a call of `Add` -/
def adderStep (pool : CThreadPoolMgr Conn Key Req) (created : Bool) :
    AddControl Conn Key Req → Option (AddControl Conn Key Req × CThreadPoolMgr Conn Key Req)
  | .adding pReq =>
    some (.checking (pool.lstRequests.length + 1),
      { pool with lstRequests := pool.lstRequests ++ [pReq] })
  | .checking iSize =>
    some (if pool.checkForThreadCreate iSize then .spawning iSize else .signalling iSize, pool)
  | .spawning iSize =>
    if created then some (.counting iSize, { pool with runners := pool.runners ++ [.testing] })
    else some (.signalling iSize, pool)
  | .counting iSize => some (.storing iSize pool.iWorkerThreads, pool)
  | .storing iSize iWorkerThreads =>
    some (.signalling iSize, { pool with iWorkerThreads := iWorkerThreads + 1 })
  | .signalling iSize =>
    some (.returned, if 0 < iSize then { pool with evtRequest := true } else pool)
  | .returned => none

/-- What an action does to a pool that exists. The result is `none` when it is not enabled. -/
def act (pool : CThreadPoolMgr Conn Key Req) :
    PoolAction Conn Key Req → Option (CThreadPoolMgr Conn Key Req)
  | .add none _ _ => some pool
  | .add (some pConn) key request =>
    some { pool with adders := pool.adders ++ [.adding ⟨key, request, pConn⟩] }
  | .adder index created =>
    (pool.adders[index]?.bind (pool.adderStep created)).map fun next =>
      { next.2 with adders := next.2.adders.set index next.1 }
  | .runner index throws =>
    (pool.runners[index]?.bind (pool.runnerStep throws)).map fun next =>
      { next.2 with runners := next.2.runners.set index next.1 }
  | .signalShutdown => some { pool with shutdown := true }
  | .destroy => some { pool with lstRequests := [], destroyed := true }

/-- One step. The result is `none` when the action is not enabled. -/
def step (pool : CThreadPoolMgr Conn Key Req) (action : PoolAction Conn Key Req) :
    Option (CThreadPoolMgr Conn Key Req) :=
  if pool.destroyed then none else pool.act action

/-! ### What a step gives out -/

omit [DecidableEq Key] in
/-- The requests that come to the end of the queue -/
def added (pool : CThreadPoolMgr Conn Key Req) :
    PoolAction Conn Key Req → List (TPoolRequest Conn Key Req)
  | .adder index _ => pool.adders[index]?.toList.flatMap AddControl.pending
  | _ => []

omit [DecidableEq Key] in
/-- The requests whose data `ReceiveData` gets -/
def received (pool : CThreadPoolMgr Conn Key Req) :
    PoolAction Conn Key Req → List (TPoolRequest Conn Key Req)
  | .runner index _ => pool.runners[index]?.toList.flatMap RunnerControl.receives
  | _ => []

omit [DecidableEq Key] in
/-- The requests that are still in the queue when the destructor empties it -/
def discarded (pool : CThreadPoolMgr Conn Key Req) :
    PoolAction Conn Key Req → List (TPoolRequest Conn Key Req)
  | .destroy => pool.lstRequests
  | _ => []

/-! ### The steps -/

theorem step_eq_some {pool next : CThreadPoolMgr Conn Key Req} {action : PoolAction Conn Key Req} :
    pool.step action = some next ↔ pool.destroyed = false ∧ pool.act action = some next := by
  rw [step]
  cases pool.destroyed <;> simp

theorem act_runner_eq_some {pool next : CThreadPoolMgr Conn Key Req} {index : Nat}
    {throws : Bool} :
    pool.act (.runner index throws) = some next ↔
      ∃ control, pool.runners[index]? = some control ∧
        ∃ moved after, pool.runnerStep throws control = some (moved, after) ∧
          next = { after with runners := after.runners.set index moved } := by
  rw [act, Option.map_eq_some_iff]
  constructor
  · rintro ⟨⟨moved, after⟩, stepped, rfl⟩
    obtain ⟨control, found, moves⟩ := Option.bind_eq_some_iff.mp stepped
    exact ⟨control, found, moved, after, moves, rfl⟩
  · rintro ⟨control, found, moved, after, moves, rfl⟩
    exact ⟨(moved, after), Option.bind_eq_some_iff.mpr ⟨control, found, moves⟩, rfl⟩

theorem act_adder_eq_some {pool next : CThreadPoolMgr Conn Key Req} {index : Nat}
    {created : Bool} :
    pool.act (.adder index created) = some next ↔
      ∃ control, pool.adders[index]? = some control ∧
        ∃ moved after, pool.adderStep created control = some (moved, after) ∧
          next = { after with adders := after.adders.set index moved } := by
  rw [act, Option.map_eq_some_iff]
  constructor
  · rintro ⟨⟨moved, after⟩, stepped, rfl⟩
    obtain ⟨control, found, moves⟩ := Option.bind_eq_some_iff.mp stepped
    exact ⟨control, found, moved, after, moves, rfl⟩
  · rintro ⟨control, found, moved, after, moves, rfl⟩
    exact ⟨(moved, after), Option.bind_eq_some_iff.mpr ⟨control, found, moves⟩, rfl⟩

omit [DecidableEq Key] in
/-- The request that can be run is the first one in the queue whose key no thread has. -/
theorem findAvailable_eq_some {mapRunning : Key → Option Nat}
    {lstRequests rest : List (TPoolRequest Conn Key Req)} {pmReq : TPoolRequest Conn Key Req}
    (found : findAvailable mapRunning lstRequests = some (pmReq, rest)) :
    ∃ front back, lstRequests = front ++ pmReq :: back ∧ rest = front ++ back ∧
      mapRunning pmReq.key = none ∧ ∀ skipped ∈ front, mapRunning skipped.key ≠ none := by
  induction lstRequests generalizing rest with
  | nil => cases found
  | cons first others inductionHypothesis =>
    rw [findAvailable] at found
    by_cases free : mapRunning first.key = none
    · have canRun : tpmCanRunEvent first.req first.key (mapRunning first.key).isSome = true := by
        rw [free]
        rfl
      rw [if_pos canRun] at found
      cases found
      exact ⟨[], others, rfl, rfl, free, by simp⟩
    · have waits : ¬ tpmCanRunEvent first.req first.key (mapRunning first.key).isSome = true := by
        rw [Option.isSome_iff_ne_none.mpr free]
        exact Bool.false_ne_true
      rw [if_neg waits, Option.map_eq_some_iff] at found
      obtain ⟨⟨_, tail⟩, foundLater, same⟩ := found
      cases same
      obtain ⟨front, back, rfl, rfl, freeLater, skipped⟩ := inductionHypothesis foundLater
      refine ⟨first :: front, back, rfl, rfl, freeLater, fun other member => ?_⟩
      rcases List.mem_cons.mp member with rfl | later
      · exact free
      · exact skipped other later

omit [DecidableEq Key] in
/-- When no request can be run, some thread has each of their keys. -/
theorem findAvailable_eq_none {mapRunning : Key → Option Nat}
    {lstRequests : List (TPoolRequest Conn Key Req)}
    (found : findAvailable mapRunning lstRequests = none) :
    ∀ pmReq ∈ lstRequests, mapRunning pmReq.key ≠ none := by
  induction lstRequests with
  | nil => simp
  | cons first others inductionHypothesis =>
    rw [findAvailable] at found
    split at found
    · cases found
    · next waits =>
      intro pmReq member
      rcases List.mem_cons.mp member with rfl | later
      · intro free
        rw [free] at waits
        exact waits rfl
      · exact inductionHypothesis (Option.map_eq_none_iff.mp found) pmReq later

/-- A worker thread leaves the other threads and the calls of `Add` as they are. -/
theorem runnerStep_frame {pool after : CThreadPoolMgr Conn Key Req} {throws : Bool}
    {control moved : RunnerControl Conn Key Req}
    (stepped : pool.runnerStep throws control = some (moved, after)) :
    after.runners = pool.runners ∧ after.adders = pool.adders ∧ after.shutdown = pool.shutdown ∧
      after.iWorkerThreads = pool.iWorkerThreads ∧ after.destroyed = pool.destroyed := by
  cases control with
  | waiting =>
    rw [runnerStep] at stepped
    split at stepped
    · cases stepped
      exact ⟨rfl, rfl, rfl, rfl, rfl⟩
    · split at stepped
      · cases stepped
        exact ⟨rfl, rfl, rfl, rfl, rfl⟩
      · cases stepped
  | scanning =>
    rw [runnerStep] at stepped
    split at stepped <;> cases stepped <;> exact ⟨rfl, rfl, rfl, rfl, rfl⟩
  | ended => cases stepped
  | testing | looking | taken | receiving | deleting | leaving | left =>
    cases stepped
    exact ⟨rfl, rfl, rfl, rfl, rfl⟩

omit [DecidableEq Key] in
/-- A call of `Add` puts its request at the end of the queue and may create a thread. -/
theorem adderStep_frame {pool after : CThreadPoolMgr Conn Key Req} {created : Bool}
    {control moved : AddControl Conn Key Req}
    (stepped : pool.adderStep created control = some (moved, after)) :
    after.lstRequests = pool.lstRequests ++ control.pending ∧ moved.pending = [] ∧
      after.mapRunning = pool.mapRunning ∧ after.adders = pool.adders ∧
      after.shutdown = pool.shutdown ∧ after.destroyed = pool.destroyed ∧
      (after.runners = pool.runners ∨ after.runners = pool.runners ++ [.testing]) := by
  cases control with
  | adding pReq =>
    cases stepped
    exact ⟨rfl, rfl, rfl, rfl, rfl, rfl, Or.inl rfl⟩
  | checking iSize =>
    cases stepped
    cases pool.checkForThreadCreate iSize <;> simp [AddControl.pending]
  | spawning iSize =>
    cases created <;> cases stepped <;> simp [AddControl.pending]
  | signalling iSize =>
    cases stepped
    by_cases queued : 0 < iSize <;> simp [AddControl.pending, queued]
  | counting | storing =>
    cases stepped
    simp [AddControl.pending]
  | returned => cases stepped

end CThreadPoolMgr

end JnTapi
