/-
This file models `CIntCriticalSection`, the lock of every TSP++ object, as any number of
threads call `Lock` and `Unlock`.

The lock counts the calls of `Lock` that have not been undone, and a thread that is not
the first one waits for an event, which is created when it is first needed and closed
when it has not been needed for a minute. Each access of a shared variable is a step of
its own; the event and the time of its last use are accessed under a spinlock. A thread
knows how often it has got the lock, and calls `Unlock` only when it has it. The counts
are of type `LONG`, and wrap.
-/

import JnTapi.Clock
import JnTapi.Library.Parties
import JnTapi.Library.Runs

namespace JnTapi

open Library

/-! ### The data -/

/-- `INFINITE` -/
def infiniteTimeout : Dword := 0xffffffff#32

/-- Where a thread stands. -/
inductive LockControl
  | outside
  /-- `Lock` is at `InterlockedIncrement`. -/
  | locking (dwTimeout : Dword)
  /-- The count was the first one. -/
  | first (dwTimeout : Dword)
  /-- `Lock` is at the comparison of the thread ids. -/
  | contending (dwTimeout : Dword)
  /-- `BlockThread` is at `AquireSpinlock`, then it has the spinlock, then it releases it. -/
  | spinning (dwTimeout : Dword)
  | creating (dwTimeout : Dword)
  | releasing (dwTimeout : Dword)
  /-- `BlockThread` is to read `m_hevtWait`, and then to wait. -/
  | reading (dwTimeout : Dword)
  | blocked (dwTimeout : Dword) (hevtWait : Option Nat)
  /-- `BlockThread` has returned true. -/
  | granted (dwTimeout : Dword)
  /-- `Unlock` is at the decrement of `m_lInThreadCount`. -/
  | unlocking
  /-- The thread keeps the lock, and `Unlock` is at `InterlockedDecrement`. -/
  | unnesting
  /-- `Unlock` is to clear `m_dwThreadId`, and then at `InterlockedDecrement`. -/
  | resetting
  | decrementing
  /-- `UnblockWaiter` is at `AquireSpinlock`, has it, and releases it. -/
  | wakeSpinning
  | wakeCreating
  | wakeReleasing
  /-- `UnblockWaiter` is to read `m_hevtWait`, and then at `SetEvent`. -/
  | wakeReading
  | wakeSetting (hevtWait : Option Nat)
  /-- `Unlock` is at the test of the last use. -/
  | checking
  /-- `Unlock` is at `AquireSpinlock` in order to close the event, has it, and releases it. -/
  | closeSpinning
  | closing
  | closeReleasing
deriving DecidableEq, Repr

/-- A thread, with what its calls of `Lock` have returned -/
structure LockThread where
  control : LockControl
  /-- The calls that have returned true and are not undone by a call of `Unlock` -/
  locks : Nat
  /-- The calls that have returned false -/
  failures : Nat
deriving DecidableEq, Repr

/-- `CIntCriticalSection`, with the threads that use it -/
structure CIntCriticalSection where
  lInCS : Long
  lLockCount : Long
  lInThreadCount : Long
  /-- The thread at an index has the next number as its id. -/
  dwThreadId : Nat
  dwLastUse : Dword
  /-- The handle is the number of the event. -/
  hevtWait : Option Nat
  /-- The event of `m_hevtWait` is set. -/
  signalled : Bool
  /-- The events that have been created -/
  created : Nat
  threads : List LockThread
deriving DecidableEq, Repr

/-- A call of a thread, or its next step -/
inductive LockAction
  | lock (index : Nat) (dwTimeout : Dword)
  | unlock (index : Nat)
  /-- The thread takes its next step, with the tick count that it reads; whether the time-out of a
  spin or of a wait has expired. -/
  | next (index : Nat) (tickCount : Dword) (expired : Bool)

/-- The thread that the action belongs to -/
def LockAction.index : LockAction → Nat
  | .lock index _ | .unlock index | .next index _ _ => index

namespace LockThread

/-- The thread at its next place -/
def goes (thread : LockThread) (control : LockControl) : LockThread :=
  { thread with control := control }

/-- `Lock` returns true. -/
def owns (thread : LockThread) : LockThread :=
  { thread with control := .outside, locks := thread.locks + 1 }

/-- `Lock` returns false. -/
def fails (thread : LockThread) : LockThread :=
  { thread with control := .outside, failures := thread.failures + 1 }

end LockThread

namespace CIntCriticalSection

/-- `CIntCriticalSection()`, before a number of threads use it -/
def new (count : Nat) : CIntCriticalSection :=
  ⟨0, -1, 0, 0, 0#32, none, false, 0, List.replicate count ⟨.outside, 0, 0⟩⟩

/-- What `BlockThread` and `UnblockWaiter` do under the spinlock -/
def useEvent (cs : CIntCriticalSection) (tickCount : Dword) : CIntCriticalSection :=
  match cs.hevtWait with
  | none => { cs with
      hevtWait := some cs.created, signalled := false, created := cs.created + 1,
      dwLastUse := tickCount }
  | some _ => { cs with dwLastUse := tickCount }

/-- What `AquireSpinlock` finds free, it takes. -/
def spin (cs : CIntCriticalSection) (thread : LockThread) (taken : LockControl) :
    LockThread × CIntCriticalSection :=
  if cs.lInCS = 1 then (thread, cs) else (thread.goes taken, { cs with lInCS := 1 })

/-- `ReleaseSpinlock` -/
def releaseSpinlock (cs : CIntCriticalSection) : CIntCriticalSection :=
  { cs with lInCS := cs.lInCS - 1 }

/-- The next step of the thread with the id -/
def threadStep (cs : CIntCriticalSection) (dwThreadId : Nat) (tickCount : Dword) (expired : Bool)
    (thread : LockThread) : Option (LockThread × CIntCriticalSection) :=
  match thread.control with
  | .outside => none
  | .locking dwTimeout =>
    some (thread.goes (if cs.lLockCount + 1 = 0 then .first dwTimeout else .contending dwTimeout),
      { cs with lLockCount := cs.lLockCount + 1 })
  | .first _ | .granted _ =>
    some (thread.owns, { cs with dwThreadId := dwThreadId, lInThreadCount := 1 })
  | .contending dwTimeout =>
    if cs.dwThreadId = dwThreadId then
      some (thread.owns, { cs with lInThreadCount := cs.lInThreadCount + 1 })
    else if dwTimeout = 0 then some (thread.fails, cs)
    else some (thread.goes (.spinning dwTimeout), cs)
  | .spinning dwTimeout =>
    if cs.lInCS = 1 ∧ expired ∧ dwTimeout ≠ infiniteTimeout then some (thread.fails, cs)
    else some (cs.spin thread (.creating dwTimeout))
  | .creating dwTimeout => some (thread.goes (.releasing dwTimeout), cs.useEvent tickCount)
  | .releasing dwTimeout => some (thread.goes (.reading dwTimeout), cs.releaseSpinlock)
  | .reading dwTimeout => some (thread.goes (.blocked dwTimeout cs.hevtWait), cs)
  | .blocked dwTimeout hevtWait =>
    -- The wait fails for a handle that is null or closed, and `BlockThread` then returns true.
    if hevtWait = none ∨ cs.hevtWait ≠ hevtWait then some (thread.goes (.granted dwTimeout), cs)
    else if cs.signalled then
      some (thread.goes (.granted dwTimeout), { cs with signalled := false })
    else if expired ∧ dwTimeout ≠ infiniteTimeout then some (thread.fails, cs)
    else none
  | .unlocking =>
    some (thread.goes (if 0 < (cs.lInThreadCount - 1).toInt then .unnesting else .resetting),
      { cs with lInThreadCount := cs.lInThreadCount - 1 })
  | .unnesting => some (thread.goes .outside, { cs with lLockCount := cs.lLockCount - 1 })
  | .resetting => some (thread.goes .decrementing, { cs with dwThreadId := 0 })
  | .decrementing =>
    some (thread.goes (if 0 ≤ (cs.lLockCount - 1).toInt then .wakeSpinning else .checking),
      { cs with lLockCount := cs.lLockCount - 1 })
  | .wakeSpinning => some (cs.spin thread .wakeCreating)
  | .wakeCreating => some (thread.goes .wakeReleasing, cs.useEvent tickCount)
  | .wakeReleasing => some (thread.goes .wakeReading, cs.releaseSpinlock)
  | .wakeReading => some (thread.goes (.wakeSetting cs.hevtWait), cs)
  | .wakeSetting hevtWait =>
    if hevtWait = none ∨ cs.hevtWait ≠ hevtWait then some (thread.goes .outside, cs)
    else some (thread.goes .outside, { cs with signalled := true })
  | .checking =>
    if cs.hevtWait ≠ none ∧ cs.dwLastUse + 60000#32 < tickCount then
      some (thread.goes .closeSpinning, cs)
    else some (thread.goes .outside, cs)
  | .closeSpinning => some (cs.spin thread .closing)
  | .closing => some (thread.goes .closeReleasing, { cs with hevtWait := none, signalled := false })
  | .closeReleasing => some (thread.goes .outside, cs.releaseSpinlock)

/-- What a thread does in an action. The result is `none` when the action is not enabled. -/
def act (cs : CIntCriticalSection) (thread : LockThread) :
    LockAction → Option (LockThread × CIntCriticalSection)
  | .lock _ dwTimeout =>
    if thread.control = .outside then some (thread.goes (.locking dwTimeout), cs) else none
  | .unlock _ =>
    if thread.control = .outside ∧ 0 < thread.locks then
      some (⟨.unlocking, thread.locks - 1, thread.failures⟩, cs)
    else none
  | .next index tickCount expired => cs.threadStep (index + 1) tickCount expired thread

/-- One step of one thread -/
def step (cs : CIntCriticalSection) (action : LockAction) : Option CIntCriticalSection :=
  (cs.threads[action.index]?.bind (cs.act · action)).map fun next =>
    { next.2 with threads := next.2.threads.set action.index next.1 }

theorem step_eq_some {cs next : CIntCriticalSection} {action : LockAction} :
    cs.step action = some next ↔
      ∃ thread, cs.threads[action.index]? = some thread ∧
        ∃ moved after, cs.act thread action = some (moved, after) ∧
          next = { after with threads := after.threads.set action.index moved } := by
  rw [step, Option.map_eq_some_iff]
  constructor
  · rintro ⟨⟨moved, after⟩, stepped, rfl⟩
    obtain ⟨thread, found, moves⟩ := Option.bind_eq_some_iff.mp stepped
    exact ⟨thread, found, moved, after, moves, rfl⟩
  · rintro ⟨thread, found, moved, after, moves, rfl⟩
    exact ⟨(moved, after), Option.bind_eq_some_iff.mpr ⟨thread, found, moves⟩, rfl⟩

theorem useEvent_threads (cs : CIntCriticalSection) (tickCount : Dword) :
    (cs.useEvent tickCount).threads = cs.threads := by
  rw [useEvent]
  split <;> rfl

theorem spin_threads (cs : CIntCriticalSection) (thread : LockThread) (taken : LockControl) :
    (cs.spin thread taken).2.threads = cs.threads := by
  rw [spin]
  split <;> rfl

/-- A thread leaves the other threads as they are. -/
theorem act_threads {cs after : CIntCriticalSection} {thread moved : LockThread}
    {action : LockAction} (acted : cs.act thread action = some (moved, after)) :
    after.threads = cs.threads := by
  cases action with
  | lock | unlock =>
    rw [act] at acted
    split_ifs at acted
    cases acted
    rfl
  | next index tickCount expired =>
    obtain ⟨control, locks, failures⟩ := thread
    rw [act] at acted
    cases control with
    | outside => cases acted
    | creating | wakeCreating =>
      cases acted
      exact useEvent_threads cs tickCount
    | wakeSpinning | closeSpinning =>
      have spun := congrArg (·.2.threads) (Option.some.inj acted)
      exact spun.symm.trans (spin_threads cs _ _)
    | spinning =>
      rw [threadStep] at acted
      dsimp only at acted
      split_ifs at acted
      · cases acted
        rfl
      · have spun := congrArg (·.2.threads) (Option.some.inj acted)
        exact spun.symm.trans (spin_threads cs _ _)
    | contending | blocked | wakeSetting | checking =>
      rw [threadStep] at acted
      dsimp only at acted
      split_ifs at acted
      all_goals
        cases acted
        rfl
    | locking | first | granted | releasing | reading | unlocking | unnesting | resetting
    | decrementing | wakeReleasing | wakeReading | closing | closeReleasing =>
      cases acted
      rfl

/-- What the other threads do leaves a thread where it stands. -/
theorem threads_of_apart {cs last : CIntCriticalSection} {index : Nat} {others : List LockAction}
    (apart : ∀ action ∈ others, action.index ≠ index) (reached : run step others cs = some last) :
    last.threads[index]? = cs.threads[index]? := by
  induction others generalizing cs with
  | nil =>
    obtain rfl : cs = last := Option.some.inj reached
    rfl
  | cons action rest inductionHypothesis =>
    obtain ⟨next, stepped, remaining⟩ := run_cons_eq_some.mp reached
    rw [inductionHypothesis (fun other member => apart other (List.mem_cons_of_mem _ member))
      remaining]
    obtain ⟨thread, found, moved, after, acted, rfl⟩ := step_eq_some.mp stepped
    rw [List.getElem?_set_ne (apart action List.mem_cons_self), act_threads acted]

end CIntCriticalSection

end JnTapi
