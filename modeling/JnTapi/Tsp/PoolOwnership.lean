/-
This file proves what becomes of the events that `COnSipDevice::_processEvent` hands to
`CThreadPoolMgr`.

`_processEvent` deletes an event itself when there is no line for it. Else the event
belongs to the call of `Add`, then to the queue, then to the worker thread that has taken
it, which deletes it after `ReceiveData`; what is left in the queue the destructor
deletes. An event is left behind when `ReceiveData` throws.
-/

import Mathlib.Algebra.Order.Group.Multiset
import Mathlib.Tactic.Abel
import JnTapi.Tsp.PoolOrder

namespace JnTapi

open Library

variable {Conn Key Req : Type*}

/-- The data of the requests, as events that somebody has -/
def eventsOf (requests : List (TPoolRequest Conn Key Req)) : Multiset Req :=
  requests.map TPoolRequest.req

@[simp] theorem eventsOf_nil : eventsOf ([] : List (TPoolRequest Conn Key Req)) = 0 := rfl

@[simp] theorem eventsOf_cons (pmReq : TPoolRequest Conn Key Req)
    (rest : List (TPoolRequest Conn Key Req)) :
    eventsOf (pmReq :: rest) = {pmReq.req} + eventsOf rest := by
  rw [eventsOf, List.map_cons, ← Multiset.cons_coe, ← Multiset.singleton_add, eventsOf]

@[simp] theorem eventsOf_append (first second : List (TPoolRequest Conn Key Req)) :
    eventsOf (first ++ second) = eventsOf first + eventsOf second := by
  rw [eventsOf, List.map_append, ← Multiset.coe_add, eventsOf, eventsOf]

/-- The event that `_processEvent` is called with -/
def PoolAction.processed : PoolAction Conn Key Req → List Req
  | .add _ _ request => [request]
  | .adder _ _ | .runner _ _ | .signalShutdown | .destroy => []

/-- The request whose data the thread deletes in its next step -/
def RunnerControl.deletes : RunnerControl Conn Key Req → List (TPoolRequest Conn Key Req)
  | .deleting pmReq => [pmReq]
  | .taken _ | .receiving _ | .leaving _ | .testing | .looking | .waiting | .scanning | .left
  | .ended => []

namespace CThreadPoolMgr

/-- The events that the step deletes: `_processEvent` has no line for it, the thread has come back
from `ReceiveData`, or the destructor finds it in the queue. -/
def deleted (pool : CThreadPoolMgr Conn Key Req) : PoolAction Conn Key Req → List Req
  | .add none _ request => [request]
  | .runner index _ =>
    (pool.runners[index]?.toList.flatMap RunnerControl.deletes).map TPoolRequest.req
  | .destroy => pool.lstRequests.map TPoolRequest.req
  | .add (some _) _ _ | .adder _ _ | .signalShutdown => []

/-- The event that `ReceiveData` leaves behind when it throws -/
def leaked (pool : CThreadPoolMgr Conn Key Req) : PoolAction Conn Key Req → List Req
  | .runner index true =>
    (pool.runners[index]?.toList.flatMap RunnerControl.receives).map TPoolRequest.req
  | .runner _ false | .add _ _ _ | .adder _ _ | .signalShutdown | .destroy => []

/-- The events that a call of `Add`, a worker thread or the queue has -/
def kept (pool : CThreadPoolMgr Conn Key Req) : Multiset Req :=
  (pool.adders.map fun control => eventsOf control.pending).sum +
    (pool.runners.map fun control => eventsOf control.owned).sum + eventsOf pool.lstRequests

variable [DecidableEq Key]

/-- What a worker thread and the queue have goes to the thread, or out of the pool. -/
theorem owned_runnerStep {pool after : CThreadPoolMgr Conn Key Req} {throws : Bool}
    {control moved : RunnerControl Conn Key Req}
    (stepped : pool.runnerStep throws control = some (moved, after)) :
    eventsOf moved.owned + eventsOf after.lstRequests + eventsOf control.deletes +
        (if throws then eventsOf control.receives else 0) =
      eventsOf control.owned + eventsOf pool.lstRequests := by
  cases control with
  | testing =>
    cases stepped
    cases pool.shutdown <;> simp [RunnerControl.owned, RunnerControl.deletes, RunnerControl.receives]
  | waiting =>
    rw [runnerStep] at stepped
    split at stepped
    · cases stepped
      simp [RunnerControl.owned, RunnerControl.deletes, RunnerControl.receives]
    · split at stepped
      · cases stepped
        simp [RunnerControl.owned, RunnerControl.deletes, RunnerControl.receives]
      · cases stepped
  | scanning =>
    rw [runnerStep] at stepped
    split at stepped
    · cases stepped
      simp [RunnerControl.owned, RunnerControl.deletes, RunnerControl.receives]
    · next pmReq rest found =>
      cases stepped
      obtain ⟨front, back, queue, rfl, -⟩ := findAvailable_eq_some found
      simp only [RunnerControl.owned, RunnerControl.deletes, RunnerControl.receives, queue,
        eventsOf_append, eventsOf_cons, eventsOf_nil, ite_self]
      abel
  | receiving pmReq =>
    cases stepped
    cases throws
    · simp [RunnerControl.owned, RunnerControl.deletes]
    · simp only [RunnerControl.owned, RunnerControl.deletes, RunnerControl.receives, if_true,
        eventsOf_cons, eventsOf_nil]
      abel
  | deleting pmReq =>
    cases stepped
    simp only [RunnerControl.owned, RunnerControl.deletes, RunnerControl.receives, ite_self,
      eventsOf_cons, eventsOf_nil]
    abel
  | looking | taken | leaving | left =>
    cases stepped
    simp [RunnerControl.owned, RunnerControl.deletes, RunnerControl.receives]
  | ended => cases stepped

omit [DecidableEq Key] in
/-- The books of a step in which one party moves: what goes out and what the party and the queue
have afterwards is what they had. -/
theorem books_of_moved {others before after owned moved queue rest gone left : Multiset Req}
    (entered : moved + rest + gone + left = owned + queue)
    (together : after + owned = before + moved) :
    gone + left + (others + after + rest) = others + before + queue := by
  refine add_right_cancel (b := owned) ?_
  calc gone + left + (others + after + rest) + owned
    _ = others + (after + owned) + (rest + gone + left) := by abel
    _ = others + before + (moved + rest + gone + left) := by rw [together]; abel
    _ = others + before + queue + owned := by rw [entered]; abel

/-- Every step keeps the books of the events. -/
theorem kept_step {pool next : CThreadPoolMgr Conn Key Req} {action : PoolAction Conn Key Req}
    (stepped : pool.step action = some next) :
    (pool.deleted action : Multiset Req) + (pool.leaked action : Multiset Req) + next.kept =
      pool.kept + (action.processed : Multiset Req) := by
  obtain ⟨-, acted⟩ := step_eq_some.mp stepped
  cases action with
  | runner index throws =>
    obtain ⟨control, found, moved, after, moves, rfl⟩ := act_runner_eq_some.mp acted
    obtain ⟨sameRunners, sameAdders, -⟩ := runnerStep_frame moves
    have entered := owned_runnerStep moves
    have owned := sum_map_set found (fun control => eventsOf control.owned) moved
    have deletedNow : (pool.deleted (.runner index throws) : Multiset Req) =
        eventsOf control.deletes := by
      rw [deleted, found]
      simp [eventsOf]
    have leakedNow : (pool.leaked (.runner index throws) : Multiset Req) =
        if throws then eventsOf control.receives else 0 := by
      cases throws with
      | false => rfl
      | true =>
        rw [leaked, found]
        simp [eventsOf]
    rw [deletedNow, leakedNow]
    simp only [kept, sameRunners, sameAdders, PoolAction.processed, Multiset.coe_nil, add_zero]
    exact books_of_moved entered owned
  | adder index created =>
    obtain ⟨control, found, moved, after, moves, rfl⟩ := act_adder_eq_some.mp acted
    obtain ⟨queue, pending, -, sameAdders, -, -, runners⟩ := adderStep_frame moves
    have owned : (after.runners.map fun control => eventsOf control.owned).sum =
        (pool.runners.map fun control => eventsOf control.owned).sum := by
      rcases runners with same | more
      · rw [same]
      · rw [more, List.map_append, List.sum_append]
        exact add_zero _
    have handed := sum_map_set found (fun control => eventsOf control.pending) moved
    simp only [pending, eventsOf_nil, add_zero] at handed
    simp only [kept, deleted, leaked, sameAdders, owned, queue, PoolAction.processed,
      Multiset.coe_nil, add_zero, zero_add, eventsOf_append, ← handed]
    abel
  | add pConn key request =>
    cases pConn with
    | none =>
      cases acted
      simp only [deleted, leaked, PoolAction.processed, Multiset.coe_nil, add_zero]
      exact add_comm _ _
    | some pConn =>
      cases acted
      simp only [kept, deleted, leaked, PoolAction.processed, Multiset.coe_nil, zero_add,
        List.map_append, List.map_singleton, List.sum_append, List.sum_singleton,
        AddControl.pending, eventsOf_cons, eventsOf_nil, add_zero, Multiset.coe_singleton]
      abel
  | signalShutdown =>
    cases acted
    simp only [kept, deleted, leaked, PoolAction.processed, Multiset.coe_nil, zero_add, add_zero]
  | destroy =>
    cases acted
    have emptied : (pool.deleted .destroy : Multiset Req) = eventsOf pool.lstRequests := rfl
    rw [emptied]
    simp only [kept, leaked, PoolAction.processed, Multiset.coe_nil, add_zero, eventsOf_nil]
    exact add_comm _ _

/-- Every event that `_processEvent` was called with was deleted once, or left behind by a
`ReceiveData` that threw, or it is with a call of `Add`, with a worker thread or in the queue. -/
theorem processed_eq {iMaxThreadCount : Nat} {actions : List (PoolAction Conn Key Req)}
    {pool : CThreadPoolMgr Conn Key Req}
    (reached : run step actions (new iMaxThreadCount) = some pool) :
    (actions.flatMap PoolAction.processed : Multiset Req) =
      (outputs step deleted actions (new iMaxThreadCount) : Multiset Req) +
        (outputs step leaked actions (new iMaxThreadCount) : Multiset Req) + pool.kept := by
  refine run_history (motive := fun past pool => (past.flatMap PoolAction.processed : Multiset Req) =
      (outputs step deleted past (new iMaxThreadCount) : Multiset Req) +
        (outputs step leaked past (new iMaxThreadCount) : Multiset Req) + pool.kept)
    rfl ?_ reached
  intro past middle action next reachedMiddle stepped books
  have entered := kept_step stepped
  rw [List.flatMap_append, List.flatMap_singleton, outputs_snoc reachedMiddle stepped,
    outputs_snoc reachedMiddle stepped, ← Multiset.coe_add, ← Multiset.coe_add,
    ← Multiset.coe_add, books]
  calc _ = (outputs step deleted past (new iMaxThreadCount) : Multiset Req) +
        (outputs step leaked past (new iMaxThreadCount) : Multiset Req) +
          (middle.kept + (action.processed : Multiset Req)) := by abel
    _ = (outputs step deleted past (new iMaxThreadCount) : Multiset Req) +
        (outputs step leaked past (new iMaxThreadCount) : Multiset Req) +
          ((middle.deleted action : Multiset Req) + (middle.leaked action : Multiset Req) +
            next.kept) := by rw [entered]
    _ = _ := by abel

end CThreadPoolMgr

namespace Example

/-- The first request makes `ReceiveData` throw, the third one has been worked on, an event has no
line, and the destructor runs. -/
def poolDestroyed : List (PoolAction Unit Nat Nat) :=
  poolInterleaved ++ [.add none 3 30] ++ poolRuns 1 4 ++ poolRuns 0 1 ++ [.runner 0 true] ++
    poolRuns 0 3 ++ [.signalShutdown] ++ poolRuns 0 1 ++ poolRuns 1 1 ++ [.destroy]

end Example

namespace CThreadPoolMgr

/-- One event was left behind, and the others were deleted by three different parties. -/
theorem processed_eq_poolDestroyed :
    ∃ pool : CThreadPoolMgr Unit Nat Nat, run step Example.poolDestroyed (new 4) = some pool ∧
      pool.kept = 0 ∧ (([10, 11, 20, 30] : List Nat) : Multiset Nat) =
        (([30, 20, 11] : List Nat) : Multiset Nat) + (([10] : List Nat) : Multiset Nat) +
          pool.kept := by
  have reached : run step Example.poolDestroyed (new 4) = some _ := rfl
  exact ⟨_, reached, rfl, processed_eq reached⟩

end CThreadPoolMgr

end JnTapi
