/-
This file models how TAPI opens and closes the device, and proves that its sessions do not mix.

`COnSipDevice::OpenDevice` creates the connection thread and waits until it has logged in,
`CloseDevice` signals the stop event and waits for the thread to end. The threads are those of
the model of `ConnectionThread`. `m_OnSipTapi` belongs to the device: a thread creates the
object, works on what the device points to, and deletes that at its end.
-/

import JnTapi.ConnectionThread
import JnTapi.Library.Parties
import JnTapi.Library.Runs

namespace JnTapi

open Library

/-! ### The device -/

/-- Where the thread of TAPI stands. -/
inductive TapiControl
  /-- Neither in `OpenDevice` nor in `CloseDevice` -/
  | outside
  /-- In the wait of `OpenDevice` -/
  | opening
  /-- In the wait of `_killThreads` -/
  | killing
deriving DecidableEq, Repr

/-- A thread that `_beginthreadex` has created. -/
inductive DeviceThread
  /-- It has not begun. -/
  | created
  | running (thread : ConnectionThread)
deriving DecidableEq, Repr

/-- `COnSipDevice` -/
structure COnSipDevice where
  tapi : TapiControl
  /-- `m_hConnThread`, as the thread's place among those that have been created -/
  connThread : Option Nat
  /-- `m_hevtStop` is signalled. -/
  hevtStop : Bool
  /-- `m_hOpenDevice` is signalled. -/
  hOpenDevice : Bool
  /-- `m_OnSipTapi`, as the thread that has created the object -/
  onSipTapi : Option Nat
  threads : List DeviceThread
  /-- A thread has used or deleted an object that is not its own. -/
  mixedUp : Bool
deriving DecidableEq, Repr

/-- How `WaitForMultipleObjects` in `OpenDevice` returns. -/
inductive OpenWait
  /-- `WAIT_OBJECT_0`: the thread has logged in. -/
  | opened
  /-- `WAIT_OBJECT_1`: the thread has ended. -/
  | ended
  | timedOut
deriving DecidableEq, Repr

/-- One step of the thread of TAPI, or of a connection thread. -/
inductive DeviceAction
  /-- `OpenDevice` is called; `_beginthreadex` succeeds or fails. -/
  | openDevice (succeeds : Bool)
  /-- The wait of `OpenDevice` returns. -/
  | openWaited (outcome : OpenWait)
  | closeDevice
  /-- The wait of `_killThreads` returns, because the thread has ended or the time is over. -/
  | killWaited (ended : Bool)
  /-- A connection thread begins. -/
  | begins (index : Nat) (reading : Reading) (loginInfo : LoginInfo)
  /-- A connection thread goes a step, or another thread makes or drops a call. -/
  | thread (index : Nat) (action : ThreadAction)

namespace ThreadAction

/-- What the step reads of the stop event -/
def readsStop : ThreadAction → Option Bool
  | .init (.checkStop signalled _) | .checkStop signalled _ | .waited signalled _ => some signalled
  | _ => none

/-- The step is one of `DRV_MakeCall` or `DRV_DropCall`. -/
def isCommand : ThreadAction → Bool
  | .init (.call action) | .call action => InitCall.otherThread action
  | _ => false

end ThreadAction

namespace ThreadControl

/-- In the first `InitOnSipTapi` -/
def isFirst : ThreadControl → Bool
  | .initializing true _ => true
  | _ => false

/-- In the first `InitOnSipTapi`, or behind it when it has failed -/
def notOpened : ThreadControl → Bool
  | .initializing true _ | .cleaning true | .exited => true
  | _ => false

/-- In the loop -/
def inLoop : ThreadControl → Bool
  | .initializing first _ => !first
  | .cleaning last => !last
  | .retryWaiting | .looping | .connected | .polling .connectionThread _ | .errorWaiting
  | .processing _ => true
  | .polling (.disconnect _) _ | .disconnecting _ | .exited => false

end ThreadControl

/-- `_killThreads` goes on although the thread has not ended. -/
def DeviceAction.givesUp : DeviceAction → Bool
  | .killWaited false => true
  | _ => false

/-- `MainConnThread` has returned. -/
def DeviceThread.ended : DeviceThread → Bool
  | .created => false
  | .running thread => thread.control = .exited

namespace COnSipDevice

def new : COnSipDevice := ⟨.outside, none, false, false, none, [], false⟩

/-- The thread of `m_hConnThread` has ended. -/
def connThreadEnded (device : COnSipDevice) : Bool :=
  (device.connThread.bind (device.threads[·]?)).any DeviceThread.ended

/-- `OpenDevice`, up to its wait -/
def openDevice (succeeds : Bool) (device : COnSipDevice) : COnSipDevice :=
  if device.connThread.isSome then device
  else
    let device := { device with hevtStop := false, hOpenDevice := false }
    if succeeds then
      { device with
        tapi := .opening
        connThread := some device.threads.length
        threads := device.threads ++ [.created] }
    else device

/-- `_killThreads`, up to its wait -/
def killThreads (device : COnSipDevice) : COnSipDevice :=
  if device.connThread.isSome then { device with tapi := .killing, hevtStop := true }
  else { device with tapi := .outside }

/-- `m_OnSipTapi.reset(new OnSipTapi())` at the beginning of a thread: it deletes the object that
is there. -/
def createsObject (index : Nat) (thread : ConnectionThread) (device : COnSipDevice) :
    COnSipDevice :=
  { device with
    threads := device.threads.set index (.running thread)
    onSipTapi := some index
    mixedUp := device.mixedUp || device.onSipTapi.isSome }

/-- The device after a step of a thread: the first login signals `m_hOpenDevice`, and the end of
the thread deletes the object. -/
def goesOn (index : Nat) (thread next : ConnectionThread) (device : COnSipDevice) :
    COnSipDevice :=
  { device with
    threads := device.threads.set index (.running next)
    hOpenDevice := device.hOpenDevice || thread.control.isFirst && next.control == .looping
    onSipTapi := if next.control = .exited then none else device.onSipTapi
    mixedUp := device.mixedUp || device.onSipTapi != some index }

/-- One step; `none` when the thread does not stand where the step begins, or an event has not the
state that the step reads. -/
def step (device : COnSipDevice) : DeviceAction → Option COnSipDevice
  | .openDevice succeeds =>
    if device.tapi = .outside then some (device.openDevice succeeds) else none
  | .openWaited .opened =>
    if device.tapi = .opening ∧ device.hOpenDevice = true then
      some { device with tapi := .outside }
    else none
  | .openWaited .ended =>
    if device.tapi = .opening ∧ device.hOpenDevice = false ∧ device.connThreadEnded = true then
      some { device with tapi := .outside, connThread := none }
    else none
  | .openWaited .timedOut =>
    if device.tapi = .opening ∧ device.hOpenDevice = false ∧ device.connThreadEnded = false then
      some device.killThreads
    else none
  | .closeDevice => if device.tapi = .outside then some device.killThreads else none
  | .killWaited ended =>
    if device.tapi = .killing ∧ device.connThreadEnded = ended then
      some { device with tapi := .outside, connThread := none }
    else none
  | .begins index reading loginInfo =>
    if device.threads[index]? = some .created then
      some (device.createsObject index (ConnectionThread.new reading loginInfo))
    else none
  | .thread index action =>
    match device.threads[index]? with
    | some (.running thread) =>
      if action.readsStop.all (· == device.hevtStop) = true ∧
          (action.isCommand = true → device.onSipTapi = some index) then
        (thread.step action).map fun next => device.goesOn index thread next
      else none
    | _ => none

end COnSipDevice

/-! ### The thread within a session -/

namespace ConnectionThread

variable {thread next : ConnectionThread} {action : ThreadAction}

/-- A thread that has not logged in logs in now, or never gets into the loop. -/
theorem notOpened_step (stepped : thread.step action = some next)
    (here : thread.control.notOpened = true) :
    next.control.notOpened = true ∨ thread.control.isFirst = true ∧ next.control = .looping := by
  cases transition_of_step stepped with
  | @init first _ _ _ stands _ =>
    rw [stands] at here ⊢
    cases first with
    | false => cases here
    | true =>
      unfold initialized
      split
      · exact Or.inr ⟨rfl, rfl⟩
      · exact Or.inl rfl
      · exact Or.inl rfl
  | otherCall | arrive => exact Or.inl here
  | @disconnected last stands =>
    rw [stands] at here
    cases last with
    | false => cases here
    | true => exact Or.inl rfl
  | stop stands _ =>
    rcases stands with stands | stands <;> rw [stands] at here <;> cases here
  | poll stands | tryConnect stands =>
    rcases stands with ⟨stands, -⟩ | ⟨stands, -⟩ <;> rw [stands] at here <;> cases here
  | loop stands =>
    rcases stands with ⟨stands, -⟩ | ⟨stands, -⟩ <;> rw [stands] at here <;> cases here
  | pollCall stands _ | polled stands | pollInit stands | receive stands
  | received stands | pollFailed stands _ | processEvent stands | updateState stands
  | cleanup stands | pollShutdown stands =>
    rw [stands] at here
    cases here

/-- A thread in the loop stays there until it reads that the stop event is signalled. -/
theorem inLoop_step (stepped : thread.step action = some next)
    (reads : action.readsStop ≠ some true) (here : thread.control.inLoop = true) :
    next.control.inLoop = true := by
  cases transition_of_step stepped with
  | @init first _ _ _ stands _ =>
    rw [stands] at here
    cases first with
    | true => cases here
    | false => unfold initialized; split <;> rfl
  | otherCall | arrive => exact here
  | poll | tryConnect | loop | processEvent => rfl
  | stop _ read => rcases read with rfl | rfl <;> exact absurd rfl reads
  | updateState => unfold updateState; dsimp only; split_ifs <;> rfl
  | @disconnected last stands =>
    rw [stands] at here
    cases last with
    | false => rfl
    | true => cases here
  | cleanup stands | pollShutdown stands =>
    rw [stands] at here
    cases here
  | @pollCall caller _ _ _ _ stands _ =>
    rw [stands] at here
    cases caller with
    | disconnect => cases here
    | connectionThread =>
      unfold afterCall
      split
      · rfl
      · rw [← stands] at here
        exact here
  | @polled caller _ _ _ _ _ stands =>
    rw [stands] at here
    cases caller with
    | disconnect => cases here
    | connectionThread => unfold polled; dsimp only; split_ifs <;> rfl
  | @pollFailed caller _ _ stands _ =>
    rw [stands] at here
    cases caller with
    | disconnect => cases here
    | connectionThread => rfl
  | @pollInit caller _ _ _ _ _ stands | @receive caller _ _ _ _ _ stands
  | @received caller _ stands =>
    rw [stands] at here
    cases caller with
    | disconnect => cases here
    | connectionThread => rfl

theorem not_exited_of_step (stepped : thread.step action = some next) :
    thread.control ≠ .exited := by
  intro exited
  rcases thread with ⟨control, _, _, _, _⟩
  cases exited
  cases action <;> cases stepped

end ConnectionThread

/-! ### The sessions of the device -/

/-- Where a thread stands that has not been told to stop: it is in the loop, or has not logged
in. -/
def DeviceThread.Stands (opened : Bool) : DeviceThread → Prop
  | .created => opened = false
  | .running thread =>
    if opened then thread.control.inLoop = true else thread.control.notOpened = true

namespace COnSipDevice

/-- Only the thread of `m_hConnThread` goes on, and `m_OnSipTapi` is its object. -/
structure Orderly (device : COnSipDevice) : Prop where
  own : device.mixedUp = false
  current : ∀ {index : Nat} {thread : DeviceThread}, device.threads[index]? = some thread →
    thread.ended = false → device.connThread = some index
  owner : ∀ {index : Nat}, device.onSipTapi = some index → ∃ thread,
    device.threads[index]? = some (.running thread) ∧ thread.control ≠ .exited
  owned : ∀ {index : Nat} {thread : ConnectionThread},
    device.threads[index]? = some (.running thread) → thread.control ≠ .exited →
      device.onSipTapi = some index
  stands : ∀ {index : Nat}, device.connThread = some index → ∃ thread,
    device.threads[index]? = some thread ∧
      (device.hevtStop = false → thread.Stands device.hOpenDevice)
  waiting : device.tapi ≠ .outside → device.connThread.isSome = true
  opening : device.tapi = .opening → device.hevtStop = false
  outside : device.tapi = .outside → device.connThread.isSome = true →
    device.hevtStop = false ∧ device.hOpenDevice = true

variable {device next : COnSipDevice}

theorem orderly_new : Orderly new where
  own := rfl
  current := fun found => by cases found
  owner := fun owner => by cases owner
  owned := fun found => by cases found
  stands := fun connThread => by cases connThread
  waiting := fun inside => absurd rfl inside
  opening := fun _ => rfl
  outside := fun _ isSome => by cases isSome

theorem not_ended_of_running {thread : ConnectionThread} (alive : thread.control ≠ .exited) :
    (DeviceThread.running thread).ended = false := decide_eq_false alive

/-- A wait returns because the thread has ended: `m_hConnThread` is set to zero. -/
theorem Orderly.waited (orderly : device.Orderly) (ended : device.connThreadEnded = true) :
    Orderly { device with tapi := .outside, connThread := none } := by
  have all : ∀ {index : Nat} {thread : DeviceThread}, device.threads[index]? = some thread →
      thread.ended = true := by
    intro index thread found
    by_contra alive
    have current := orderly.current found (Bool.eq_false_iff.mpr alive)
    rw [connThreadEnded, current, Option.bind_some, found] at ended
    exact alive ended
  refine ⟨orderly.own, fun found alive => ?_, orderly.owner, orderly.owned,
    fun connThread => ?_, fun inside => absurd rfl inside, fun opening => ?_, fun _ isSome => ?_⟩
  · rw [all found] at alive
    cases alive
  · cases connThread
  · cases opening
  · cases isSome

theorem Orderly.killThreads (orderly : device.Orderly) : device.killThreads.Orderly := by
  unfold COnSipDevice.killThreads
  split_ifs with isSome
  · refine ⟨orderly.own, orderly.current, orderly.owner, orderly.owned, fun connThread => ?_,
      fun _ => isSome, fun opening => ?_, fun outside => ?_⟩
    · obtain ⟨thread, found, -⟩ := orderly.stands connThread
      exact ⟨thread, found, fun signalled => by cases signalled⟩
    · cases opening
    · cases outside
  · exact ⟨orderly.own, orderly.current, orderly.owner, orderly.owned, orderly.stands,
      fun inside => absurd rfl inside, fun opening => (by cases opening),
      fun _ some => absurd some isSome⟩

theorem Orderly.openDevice (orderly : device.Orderly) (succeeds : Bool) :
    (device.openDevice succeeds).Orderly := by
  unfold COnSipDevice.openDevice
  split_ifs with isSome
  · exact orderly
  · -- the thread that is created is the only one that has not ended
    refine ⟨orderly.own, fun found alive => ?_, fun owner => ?_, fun found alive => ?_,
      fun connThread => ?_, fun _ => rfl, fun _ => rfl, fun outside => by cases outside⟩
    · rcases getElem?_concat_eq_some.mp found with found | ⟨rfl, -⟩
      · exact absurd (orderly.current found alive ▸ rfl) isSome
      · rfl
    · obtain ⟨thread, found, alive⟩ := orderly.owner owner
      exact ⟨thread, getElem?_concat_eq_some.mpr (Or.inl found), alive⟩
    · rcases getElem?_concat_eq_some.mp found with found | ⟨-, same⟩
      · exact orderly.owned found alive
      · cases same
    · obtain rfl := Option.some.inj connThread
      exact ⟨.created, getElem?_concat_eq_some.mpr (Or.inr ⟨rfl, rfl⟩), fun _ => rfl⟩
  · exact ⟨orderly.own, orderly.current, orderly.owner, orderly.owned,
      fun connThread => absurd (connThread ▸ rfl) isSome, orderly.waiting, fun _ => rfl,
      fun _ some => absurd some isSome⟩

theorem Orderly.createsObject {index : Nat} (orderly : device.Orderly)
    (created : device.threads[index]? = some .created) (reading : Reading)
    (loginInfo : LoginInfo) :
    (device.createsObject index (ConnectionThread.new reading loginInfo)).Orderly := by
  have current := orderly.current created rfl
  have free : device.onSipTapi.isSome = false := by
    by_contra taken
    obtain ⟨other, owner⟩ := Option.isSome_iff_exists.mp (Bool.not_eq_false _ ▸ taken)
    obtain ⟨thread, found, alive⟩ := orderly.owner owner
    have same := current.symm.trans (orderly.current found (not_ended_of_running alive))
    rw [← Option.some.inj same, created] at found
    cases found
  refine ⟨?_, fun found alive => ?_, fun owner => ?_, fun found alive => ?_,
    fun connThread => ?_, orderly.waiting, orderly.opening, orderly.outside⟩
  · rw [COnSipDevice.createsObject, orderly.own, free]
    rfl
  · rcases (getElem?_set_eq_some created).mp found with ⟨rfl, -⟩ | ⟨-, found⟩
    · exact current
    · exact orderly.current found alive
  · obtain rfl := Option.some.inj owner
    exact ⟨_, (getElem?_set_eq_some created).mpr (Or.inl ⟨rfl, rfl⟩), by rintro ⟨⟩⟩
  · rcases (getElem?_set_eq_some created).mp found with ⟨rfl, -⟩ | ⟨-, found⟩
    · rfl
    · exact absurd (orderly.owned found alive ▸ rfl) (Bool.eq_false_iff.mp free)
  · obtain rfl := Option.some.inj (connThread.symm.trans current)
    refine ⟨_, (getElem?_set_eq_some created).mpr (Or.inl ⟨rfl, rfl⟩), fun signalled => ?_⟩
    obtain ⟨thread, found, stands⟩ := orderly.stands connThread
    obtain rfl := Option.some.inj (created.symm.trans found)
    have closed : device.hOpenDevice = false := stands signalled
    show DeviceThread.Stands device.hOpenDevice _
    rw [closed]
    rfl

theorem Orderly.goesOn {index : Nat} {thread next : ConnectionThread} {action : ThreadAction}
    (orderly : device.Orderly) (found : device.threads[index]? = some (.running thread))
    (stepped : thread.step action = some next)
    (reads : device.hevtStop = false → action.readsStop ≠ some true) :
    (device.goesOn index thread next).Orderly := by
  have alive := ConnectionThread.not_exited_of_step stepped
  have current := orderly.current found (not_ended_of_running alive)
  have owned := orderly.owned found alive
  have moved : ∀ {place : Nat} {other : DeviceThread},
      (device.goesOn index thread next).threads[place]? = some other ↔
        place = index ∧ other = .running next ∨
          place ≠ index ∧ device.threads[place]? = some other :=
    getElem?_set_eq_some found
  refine ⟨?_, fun found alive => ?_, fun owner => ?_, fun found alive => ?_,
    fun connThread => ?_, orderly.waiting, orderly.opening, fun outside isSome => ?_⟩
  · rw [COnSipDevice.goesOn, orderly.own, owned, bne_self_eq_false]
    rfl
  · rcases moved.mp found with ⟨rfl, -⟩ | ⟨-, found⟩
    · exact current
    · exact orderly.current found alive
  · rw [COnSipDevice.goesOn, owned] at owner
    split_ifs at owner with exited
    obtain rfl := Option.some.inj owner
    exact ⟨next, moved.mpr (Or.inl ⟨rfl, rfl⟩), exited⟩
  · rcases moved.mp found with ⟨rfl, same⟩ | ⟨different, found⟩
    · cases same
      rw [COnSipDevice.goesOn, if_neg alive, owned]
    · exact absurd (Option.some.inj ((orderly.owned found alive).symm.trans owned)) different
  · obtain rfl := Option.some.inj (connThread.symm.trans current)
    refine ⟨.running next, moved.mpr (Or.inl ⟨rfl, rfl⟩), fun signalled => ?_⟩
    obtain ⟨same, foundSame, stands⟩ := orderly.stands connThread
    obtain rfl := Option.some.inj (found.symm.trans foundSame)
    have here := stands signalled
    rw [COnSipDevice.goesOn]
    cases opened : device.hOpenDevice with
    | true =>
      rw [opened] at here
      exact ConnectionThread.inLoop_step stepped (reads signalled) here
    | false =>
      rw [opened] at here
      rcases ConnectionThread.notOpened_step stepped here with closed | ⟨first, looping⟩
      · have waits : (next.control == .looping) = false :=
          beq_eq_false_iff_ne.mpr fun looping => by rw [looping] at closed; cases closed
        rw [waits, Bool.and_false]
        exact closed
      · rw [first, looping]
        show next.control.inLoop = true
        rw [looping]
        rfl
  · obtain ⟨signalled, opened⟩ := orderly.outside outside isSome
    refine ⟨signalled, ?_⟩
    rw [COnSipDevice.goesOn, opened]
    rfl

/-- Every step keeps the sessions in order, when `_killThreads` does not give up its wait. -/
theorem Orderly.step {action : DeviceAction} (orderly : device.Orderly)
    (stepped : device.step action = some next) (waits : action.givesUp = false) :
    next.Orderly := by
  cases action with
  | openDevice succeeds =>
    obtain ⟨-, rfl⟩ := Option.ite_some_none_eq_some.mp stepped
    exact orderly.openDevice succeeds
  | openWaited outcome =>
    cases outcome with
    | opened =>
      obtain ⟨⟨opening, opened⟩, rfl⟩ := Option.ite_some_none_eq_some.mp stepped
      exact ⟨orderly.own, orderly.current, orderly.owner, orderly.owned, orderly.stands,
        fun inside => absurd rfl inside, fun opens => (by cases opens),
        fun _ _ => ⟨orderly.opening opening, opened⟩⟩
    | ended =>
      obtain ⟨⟨-, -, ended⟩, rfl⟩ := Option.ite_some_none_eq_some.mp stepped
      exact orderly.waited ended
    | timedOut =>
      obtain ⟨-, rfl⟩ := Option.ite_some_none_eq_some.mp stepped
      exact orderly.killThreads
  | closeDevice =>
    obtain ⟨-, rfl⟩ := Option.ite_some_none_eq_some.mp stepped
    exact orderly.killThreads
  | killWaited ended =>
    obtain ⟨⟨-, same⟩, rfl⟩ := Option.ite_some_none_eq_some.mp stepped
    cases ended with
    | false => cases waits
    | true => exact orderly.waited same
  | begins index reading loginInfo =>
    obtain ⟨created, rfl⟩ := Option.ite_some_none_eq_some.mp stepped
    exact orderly.createsObject created reading loginInfo
  | thread index action =>
    rw [COnSipDevice.step] at stepped
    split at stepped
    · rename_i thread found
      split_ifs at stepped with enabled
      obtain ⟨moved, steppedThread, rfl⟩ := Option.map_eq_some_iff.mp stepped
      refine orderly.goesOn found steppedThread fun signalled reads => ?_
      have agrees := enabled.1
      rw [reads, signalled] at agrees
      cases agrees
    · cases stepped

/-- No thread goes on, and there is no object. -/
structure Closed (device : COnSipDevice) : Prop where
  connThread : device.connThread = none
  onSipTapi : device.onSipTapi = none
  ended : ∀ thread ∈ device.threads, thread.ended = true

/-- The thread has logged in and goes its loop, with its own object. -/
structure Serves (index : Nat) (device : COnSipDevice) : Prop where
  connThread : device.connThread = some index
  onSipTapi : device.onSipTapi = some index
  inLoop : ∃ thread, device.threads[index]? = some (.running thread) ∧
    thread.control.inLoop = true

theorem Orderly.closed (orderly : device.Orderly) (connThread : device.connThread = none) :
    device.Closed := by
  have all : ∀ {index : Nat} {thread : DeviceThread}, device.threads[index]? = some thread →
      thread.ended = true := by
    intro index thread found
    by_contra alive
    cases connThread.symm.trans (orderly.current found (Bool.eq_false_iff.mpr alive))
  refine ⟨connThread, ?_, fun thread member => ?_⟩
  · cases owner : device.onSipTapi with
    | none => rfl
    | some index =>
      obtain ⟨thread, found, alive⟩ := orderly.owner owner
      exact absurd (of_decide_eq_true (all found)) alive
  · obtain ⟨index, found⟩ := List.getElem?_of_mem member
    exact all found

theorem Orderly.serves {index : Nat} (orderly : device.Orderly) (outside : device.tapi = .outside)
    (connThread : device.connThread = some index) : device.Serves index := by
  obtain ⟨thread, found, stands⟩ := orderly.stands connThread
  obtain ⟨signalled, opened⟩ := orderly.outside outside (connThread ▸ rfl)
  have here := stands signalled
  rw [opened] at here
  cases thread with
  | created => cases here
  | running thread =>
    have inLoop : thread.control.inLoop = true := here
    have alive : thread.control ≠ .exited := fun exited => by rw [exited] at inLoop; cases inLoop
    exact ⟨connThread, orderly.owned found alive, thread, found, inLoop⟩

theorem orderly_of_run {actions : List DeviceAction} (reached : run step actions new = some device)
    (waits : ∀ action ∈ actions, action.givesUp = false) : device.Orderly :=
  run_invariant_along
    (fun _ _ _ allowed stepped orderly => Orderly.step orderly stepped allowed) reached
    (along_of_forall waits new) orderly_new

/-- The device is closed or one thread serves it, whenever TAPI is in neither function; never do
two threads go on, and never does one use what another has created. -/
theorem sessions_apart {past : List DeviceAction} {action : DeviceAction}
    (reached : run step (past ++ [action]) new = some device)
    (waits : ∀ other ∈ past ++ [action], other.givesUp = false) :
    device.mixedUp = false ∧
    (∀ (first second : Nat) (one other : DeviceThread), device.threads[first]? = some one →
      device.threads[second]? = some other → one.ended = false → other.ended = false →
        first = second) ∧
    (device.tapi = .outside → device.Closed ∨ ∃ index, device.Serves index) ∧
    (action = .openWaited .opened → ∃ index, device.Serves index) := by
  have orderly := orderly_of_run reached waits
  refine ⟨orderly.own, fun first second one other foundFirst foundSecond goesFirst goesSecond => ?_,
    fun outside => ?_, fun opened => ?_⟩
  · have current := orderly.current foundFirst goesFirst
    exact Option.some.inj (current.symm.trans (orderly.current foundSecond goesSecond))
  · cases connThread : device.connThread with
    | none => exact Or.inl (orderly.closed connThread)
    | some index => exact Or.inr ⟨index, orderly.serves outside connThread⟩
  · obtain ⟨middle, reachedMiddle, stepped⟩ := run_snoc.mp reached
    have orderlyMiddle := orderly_of_run reachedMiddle fun other member =>
      waits other (List.mem_append_left _ member)
    rw [opened] at stepped
    obtain ⟨⟨opening, -⟩, rfl⟩ := Option.ite_some_none_eq_some.mp stepped
    have isSome := orderlyMiddle.waiting (by rw [opening]; rintro ⟨⟩)
    obtain ⟨index, connThread⟩ := Option.isSome_iff_exists.mp isSome
    exact ⟨index, orderly.serves rfl connThread⟩

end COnSipDevice

namespace Example

/-- The device is opened, and its thread with this index logs in. -/
def openAndLogIn (index : Nat) : List DeviceAction :=
  [.openDevice true, .begins index (reading 0) login] ++ (threadLogIn []).map (.thread index)

/-- The device is closed; its thread finds the stop event, logs out and ends. -/
def closeAndLogOut (index : Nat) : List DeviceAction :=
  [.closeDevice, .thread index (.checkStop true (reading 1000)),
    .thread index (.checkTime (reading 1010) (reading 1010) (.still (reading 1010)) (reading 1010)),
    .thread index (.call .testRequests), .thread index (.call .testEvents),
    .thread index (.call (.pollHandlers (readings 1010))),
    .thread index (.received .connIoError), .thread index .disconnected, .killWaited true]

/-- The device is opened, closed and opened again. -/
def openTwice : List DeviceAction :=
  openAndLogIn 0 ++ [.openWaited .opened] ++ closeAndLogOut 0 ++ openAndLogIn 1

end Example

open Example in
theorem COnSipDevice.sessions_apart_openTwice : ∃ device,
    run COnSipDevice.step (openTwice ++ [.openWaited .opened]) COnSipDevice.new = some device ∧
    device.mixedUp = false ∧
    (∀ (first second : Nat) (one other : DeviceThread), device.threads[first]? = some one →
      device.threads[second]? = some other → one.ended = false → other.ended = false →
        first = second) ∧
    (device.tapi = .outside → device.Closed ∨ ∃ index, device.Serves index) ∧
    ∃ index, device.Serves index := by
  have reached : run COnSipDevice.step (openTwice ++ [.openWaited .opened]) COnSipDevice.new =
    some _ := rfl
  obtain ⟨own, apart, outside, opened⟩ := COnSipDevice.sessions_apart reached (by decide)
  exact ⟨_, reached, own, apart, outside, opened rfl⟩

/-- When `_killThreads` gives up its wait, the next `OpenDevice` resets the stop event, and its
thread deletes the object of the first one. -/
example : (run COnSipDevice.step
    [.openDevice true, .begins 0 (Example.reading 0) Example.login, .openWaited .timedOut,
      .killWaited false, .openDevice true, .begins 1 (Example.reading 0) Example.login]
    COnSipDevice.new).map (fun device => (device.mixedUp, device.hevtStop)) =
      some (true, false) := rfl

end JnTapi
