/-
This file proves that `CIntCriticalSection` is a lock.

The count is the number of calls that have not been undone, those that returned false
included. Whenever it is not at its start, there is exactly one token: a thread has the
lock or is handing it on, or the event is set. So two threads never have the lock, and it
is never free while a thread waits in vain. This holds as long as an event is closed only
while no call is counted, since closing it later lets a waiting thread in, and as long as
the count stays below the largest `LONG`: the calls that have returned false are never
taken back, and when the count has gone round once it says that no call is counted.
-/

import Mathlib.Algebra.GroupWithZero.Nat
import Mathlib.Algebra.Order.BigOperators.Group.List
import Mathlib.Algebra.Order.Group.Nat
import JnTapi.Tsp.CritSec

namespace JnTapi

open Library

/-! ### Counts and tokens -/

/-- The values of a `LONG` that does not wrap -/
theorem toInt_add_one {value : Long} (few : value.toInt < 2 ^ 31 - 1) :
    (value + 1).toInt = value.toInt + 1 := by
  have low := BitVec.le_toInt value
  rw [BitVec.toInt_add, show (1 : Long).toInt = 1 from rfl]
  exact Int.bmod_eq_of_le (by omega) (by omega)

theorem toInt_sub_one {value : Long} (more : -2 ^ 31 < value.toInt) :
    (value - 1).toInt = value.toInt - 1 := by
  have high := BitVec.toInt_lt (x := value)
  rw [BitVec.toInt_sub, show (1 : Long).toInt = 1 from rfl]
  exact Int.bmod_eq_of_le (by omega) (by omega)

theorem add_one_eq_zero_iff {value : Long} (few : value.toInt < 2 ^ 31 - 1) :
    value + 1 = 0 ↔ value.toInt = -1 := by
  rw [← BitVec.toInt_inj, toInt_add_one few, show (0 : Long).toInt = 0 from rfl]
  omega

/-- The call of the thread is counted and has not returned. -/
def LockControl.counted : LockControl → Nat
  | .first _ | .contending _ | .spinning _ | .creating _ | .releasing _ | .reading _
  | .blocked _ _ | .granted _ | .unlocking | .unnesting | .resetting | .decrementing => 1
  | .outside | .locking _ | .wakeSpinning | .wakeCreating | .wakeReleasing | .wakeReading
  | .wakeSetting _ | .checking | .closeSpinning | .closing | .closeReleasing => 0

/-- The thread is about to have the lock, or is handing it on. -/
def LockControl.token : LockControl → Nat
  | .first _ | .granted _ | .unlocking | .resetting | .decrementing | .wakeSpinning
  | .wakeCreating | .wakeReleasing | .wakeReading | .wakeSetting _ => 1
  | .outside | .locking _ | .contending _ | .spinning _ | .creating _ | .releasing _ | .reading _
  | .blocked _ _ | .unnesting | .checking | .closeSpinning | .closing | .closeReleasing => 0

/-- A thread that has the lock can stand here. -/
def LockControl.holding : LockControl → Bool
  | .outside | .locking _ | .contending _ | .unlocking | .unnesting => true
  | _ => false

/-- The event exists while a thread stands here. -/
def LockControl.usesEvent : LockControl → Bool
  | .releasing _ | .reading _ | .wakeReleasing | .wakeReading => true
  | _ => false

/-- The thread has the lock and is in `Unlock`. -/
def LockControl.unlocks : LockControl → Bool
  | .unlocking | .unnesting => true
  | _ => false

/-- The thread gives up the lock, and `m_dwThreadId` is still its id. -/
def LockControl.resets : LockControl → Bool
  | .resetting => true
  | _ => false

/-- The thread is about to have its call counted. -/
def LockControl.counts : LockControl → Bool
  | .locking _ => true
  | _ => false

/-- The handle that a thread has read -/
def LockControl.handle : LockControl → Option (Option Nat)
  | .blocked _ hevtWait | .wakeSetting hevtWait => some hevtWait
  | _ => none

namespace LockThread

/-- The part of the thread in the count -/
def counted (thread : LockThread) : Nat := thread.locks + thread.control.counted + thread.failures

def token (thread : LockThread) : Nat := if 0 < thread.locks then 1 else thread.control.token

/-- `m_dwThreadId` is the id of the thread. -/
def holds (thread : LockThread) : Prop := 0 < thread.locks ∨ thread.control = .unlocking

/-- What holds of the thread with the id -/
structure Own (thread : LockThread) (cs : CIntCriticalSection) (id : Nat) : Prop where
  holding : 0 < thread.locks → thread.control.holding = true
  unnesting : thread.control = .unnesting → 0 < thread.locks
  holder : thread.holds → cs.dwThreadId = id ∧
    cs.lInThreadCount.toInt = thread.locks + if thread.control = .unlocking then 1 else 0
  other : ¬ thread.holds → thread.control.resets = false → cs.dwThreadId ≠ id
  usesEvent : thread.control.usesEvent = true → cs.hevtWait ≠ none
  handle : ∀ hevtWait, thread.control.handle = some hevtWait →
    hevtWait ≠ none ∧ cs.hevtWait = hevtWait

/-- A thread without a token does not have the lock. -/
theorem not_holds_of_token {thread : LockThread} (none : thread.token = 0) :
    ¬ thread.holds ∧ thread.control.resets = false := by
  obtain ⟨control, locks, failures⟩ := thread
  rw [token] at none
  split at none
  · cases none
  · next free =>
    refine ⟨?_, ?_⟩
    · rintro (some | same)
      · exact free some
      · dsimp only at same
        rw [same] at none
        cases none
    · cases control with
      | resetting => cases none
      | _ => rfl

/-- A thread that does not have the lock -/
theorem Own.of_free {thread : LockThread} {cs : CIntCriticalSection} {id : Nat}
    (free : thread.locks = 0) (ordinary : thread.control.unlocks = false)
    (other : thread.control.resets = false → cs.dwThreadId ≠ id)
    (usesEvent : thread.control.usesEvent = true → cs.hevtWait ≠ none)
    (handle : ∀ hevtWait, thread.control.handle = some hevtWait →
      hevtWait ≠ none ∧ cs.hevtWait = hevtWait) : thread.Own cs id := by
  have notHolds : ¬ thread.holds := by
    rintro (some | same)
    · exact absurd free (Nat.ne_of_gt some)
    · rw [same] at ordinary
      cases ordinary
  have notUnnesting : thread.control ≠ .unnesting := by
    intro same
    rw [same] at ordinary
    cases ordinary
  exact ⟨fun some => absurd free (Nat.ne_of_gt some), fun same => absurd same notUnnesting,
    fun holds => absurd holds notHolds, fun _ => other, usesEvent, handle⟩

/-- A thread that has nothing of the event does not need it. -/
theorem eventless {control : LockControl} {cs : CIntCriticalSection}
    (unused : control.usesEvent = false) (unread : control.handle = none) :
    (control.usesEvent = true → cs.hevtWait ≠ none) ∧
      ∀ hevtWait, control.handle = some hevtWait → hevtWait ≠ none ∧ cs.hevtWait = hevtWait := by
  refine ⟨fun uses => ?_, fun hevtWait read => ?_⟩
  · exact absurd (unused.symm.trans uses) Bool.false_ne_true
  · exact absurd (unread.symm.trans read) (Option.some_ne_none hevtWait).symm

/-- A thread that has neither the lock nor anything of the event -/
theorem Own.of_eventless {thread : LockThread} {cs : CIntCriticalSection} {id : Nat}
    (free : thread.locks = 0) (ordinary : thread.control.unlocks = false)
    (other : thread.control.resets = false → cs.dwThreadId ≠ id)
    (unused : thread.control.usesEvent = false) (unread : thread.control.handle = none) :
    thread.Own cs id := by
  obtain ⟨usesEvent, handle⟩ := eventless unused unread
  exact .of_free free ordinary other usesEvent handle

/-- A thread that stands where it has nothing of the event -/
theorem Own.mk_eventless {thread : LockThread} {cs : CIntCriticalSection} {id : Nat}
    (holding : 0 < thread.locks → thread.control.holding = true)
    (unnesting : thread.control = .unnesting → 0 < thread.locks)
    (unused : thread.control.usesEvent = false) (unread : thread.control.handle = none)
    (holder : thread.holds → cs.dwThreadId = id ∧
      cs.lInThreadCount.toInt = thread.locks + if thread.control = .unlocking then 1 else 0)
    (other : ¬ thread.holds → thread.control.resets = false → cs.dwThreadId ≠ id) :
    thread.Own cs id := by
  obtain ⟨usesEvent, handle⟩ := eventless unused unread
  exact ⟨holding, unnesting, holder, other, usesEvent, handle⟩

/-- What holds of a thread depends on the fields that it reads. -/
theorem Own.frame {thread : LockThread} {cs after : CIntCriticalSection}
    {id : Nat} (own : thread.Own cs id) (lInThreadCount : after.lInThreadCount = cs.lInThreadCount)
    (dwThreadId : after.dwThreadId = cs.dwThreadId) (hevtWait : after.hevtWait = cs.hevtWait) :
    thread.Own after id := by
  constructor
  · exact own.holding
  · exact own.unnesting
  · rw [lInThreadCount, dwThreadId]
    exact own.holder
  · rw [dwThreadId]
    exact own.other
  · rw [hevtWait]
    exact own.usesEvent
  · rw [hevtWait]
    exact own.handle

/-- A thread without a token does not mind who has the lock. -/
theorem Own.of_token {thread : LockThread} {cs after : CIntCriticalSection} {id : Nat}
    (own : thread.Own cs id) (none : thread.token = 0) (dwThreadId : after.dwThreadId ≠ id)
    (hevtWait : after.hevtWait = cs.hevtWait) : thread.Own after id := by
  obtain ⟨free, -⟩ := not_holds_of_token none
  constructor
  · exact own.holding
  · exact own.unnesting
  · exact fun holds => absurd holds free
  · exact fun _ _ => dwThreadId
  · rw [hevtWait]
    exact own.usesEvent
  · rw [hevtWait]
    exact own.handle

/-- A thread does not mind that the event is created. -/
theorem Own.of_created {thread : LockThread} {cs after : CIntCriticalSection} {id : Nat}
    (own : thread.Own cs id) (lInThreadCount : after.lInThreadCount = cs.lInThreadCount)
    (dwThreadId : after.dwThreadId = cs.dwThreadId) (absent : cs.hevtWait = none) :
    thread.Own after id := by
  constructor
  · exact own.holding
  · exact own.unnesting
  · rw [lInThreadCount, dwThreadId]
    exact own.holder
  · rw [dwThreadId]
    exact own.other
  · exact fun uses => absurd absent (own.usesEvent uses)
  · intro hevtWait read
    obtain ⟨present, same⟩ := own.handle hevtWait read
    exact absurd (same.symm.trans absent) present

/-- A thread that is not counted and has no token does not mind that the event is closed. -/
theorem Own.of_closed {thread : LockThread} {cs after : CIntCriticalSection} {id : Nat}
    (own : thread.Own cs id) (uncounted : thread.counted = 0) (none : thread.token = 0)
    (dwThreadId : after.dwThreadId = cs.dwThreadId) : thread.Own after id := by
  obtain ⟨free, -⟩ := not_holds_of_token none
  obtain ⟨control, locks, failures⟩ := thread
  simp only [counted, Nat.add_eq_zero_iff] at uncounted
  obtain ⟨⟨rfl, uncounted⟩, -⟩ := uncounted
  constructor
  · exact own.holding
  · exact own.unnesting
  · exact fun holds => absurd holds free
  · rw [dwThreadId]
    exact own.other
  · cases control <;> first | (cases uncounted; done) | (cases none; done) | rintro ⟨⟩
  · cases control <;> first | (cases uncounted; done) | (cases none; done) | rintro _ ⟨⟩

end LockThread

namespace CIntCriticalSection

/-- What holds of a lock in all its states -/
structure Sound (cs : CIntCriticalSection) : Prop where
  count : cs.lLockCount.toInt + 1 = (cs.threads.map LockThread.counted).sum
  few : cs.lLockCount.toInt + 1 < 2 ^ 31
  token : (cs.threads.map LockThread.token).sum + (if cs.signalled then 1 else 0) =
    if cs.lLockCount.toInt = -1 then 0 else 1
  signal : cs.signalled = true → cs.hevtWait ≠ none
  own : ∀ index (thread : LockThread), cs.threads[index]? = some thread → thread.Own cs (index + 1)

theorem sound_new (count : Nat) : (new count).Sound := by
  have threads : ∀ (index : Nat) (thread : LockThread), (new count).threads[index]? = some thread →
      thread = ⟨.outside, 0, 0⟩ := by
    intro index thread found
    exact List.eq_of_mem_replicate (List.mem_of_getElem? found)
  refine ⟨?_, show (-1 : Long).toInt + 1 < 2 ^ 31 by decide, ?_, (fun set => by cases set),
    fun index thread found => ?_⟩
  · simp [new, LockThread.counted, LockControl.counted]
  · simp [new, LockThread.token, LockControl.token]
  · obtain rfl := threads index thread found
    refine .mk_eventless (fun some => absurd some (Nat.lt_irrefl 0)) (by rintro ⟨⟩) rfl rfl ?_
      fun _ _ => ?_
    · rintro (some | same)
      · exact absurd some (Nat.lt_irrefl 0)
      · cases same
    · exact (Nat.succ_ne_zero index).symm

/-- The calls that are counted are at least those of one thread. -/
theorem Sound.counted_le {cs : CIntCriticalSection} {index : Nat} {thread : LockThread}
    (sound : cs.Sound) (found : cs.threads[index]? = some thread) :
    (thread.counted : Int) ≤ cs.lLockCount.toInt + 1 := by
  have member : thread.counted ∈ cs.threads.map LockThread.counted :=
    List.mem_map_of_mem (List.mem_of_getElem? found)
  have bound := List.single_le_sum (fun _ _ => Nat.zero_le _) _ member
  rw [sound.count]
  exact Int.ofNat_le.mpr bound

/-- While one thread has the token, the count is not at its start, the event is not set, and no
other thread has one. -/
theorem Sound.alone {cs : CIntCriticalSection} {index : Nat} {thread : LockThread}
    (sound : cs.Sound) (found : cs.threads[index]? = some thread) (one : thread.token = 1) :
    cs.lLockCount.toInt ≠ -1 ∧ cs.signalled = false ∧
      ∀ other (party : LockThread), cs.threads[other]? = some party → other ≠ index →
        party.token = 0 := by
  have sum := sound.token
  obtain ⟨front, back, around, length, -⟩ := exists_around found
  rw [around, List.map_append, List.map_cons, List.sum_append, List.sum_cons, one] at sum
  have started : cs.lLockCount.toInt ≠ -1 := by
    intro start
    rw [if_pos start] at sum
    omega
  rw [if_neg started] at sum
  refine ⟨started, ?_, fun other party foundOther different => ?_⟩
  · cases set : cs.signalled with
    | false => rfl
    | true =>
      rw [set, if_pos rfl] at sum
      omega
  · have zero : (front.map LockThread.token).sum = 0 ∧ (back.map LockThread.token).sum = 0 := by
      omega
    have inside : party ∈ front ∨ party ∈ back := by
      rw [around] at foundOther
      rcases Nat.lt_trichotomy other front.length with before | same | after
      · rw [List.getElem?_append_left before] at foundOther
        exact Or.inl (List.mem_of_getElem? foundOther)
      · exact absurd (same.trans length) different
      · rw [List.getElem?_append_right after.le] at foundOther
        obtain ⟨place, more⟩ := Nat.exists_eq_succ_of_ne_zero (Nat.sub_ne_zero_of_lt after)
        rw [more, List.getElem?_cons_succ] at foundOther
        exact Or.inr (List.mem_of_getElem? foundOther)
    rcases inside with left | right
    · exact List.sum_eq_zero_iff.mp zero.1 _ (List.mem_map_of_mem left)
    · exact List.sum_eq_zero_iff.mp zero.2 _ (List.mem_map_of_mem right)

/-- When one thread has moved, the lock is as before if the count and the tokens are balanced, and
if what holds of each thread does so again. -/
theorem Sound.set {cs : CIntCriticalSection} {index : Nat} {thread moved : LockThread}
    (sound : cs.Sound) (after : CIntCriticalSection) (found : cs.threads[index]? = some thread)
    (same : after.threads = cs.threads)
    (count : after.lLockCount.toInt + thread.counted = cs.lLockCount.toInt + moved.counted)
    (few : after.lLockCount.toInt + 1 < 2 ^ 31)
    (token : moved.token + (if after.signalled then 1 else 0) +
      (if cs.lLockCount.toInt = -1 then 0 else 1) =
      thread.token + (if cs.signalled then 1 else 0) +
        if after.lLockCount.toInt = -1 then 0 else 1)
    (signal : after.signalled = true → after.hevtWait ≠ none)
    (own : moved.Own after (index + 1))
    (others : ∀ other (party : LockThread), cs.threads[other]? = some party → other ≠ index →
      party.Own after (other + 1)) :
    Sound { after with threads := after.threads.set index moved } := by
  have counted := sum_map_set found LockThread.counted moved
  have tokens := sum_map_set found LockThread.token moved
  have countBefore := sound.count
  have tokenBefore := sound.token
  refine ⟨?_, few, ?_, signal, fun other party foundOther => ?_⟩
  · simp only [same]
    omega
  · simp only [same]
    omega
  · simp only [same] at foundOther
    by_cases here : other = index
    · subst here
      have bound : other < cs.threads.length := (List.getElem?_eq_some_iff.mp found).1
      rw [List.getElem?_set_self bound] at foundOther
      obtain rfl := Option.some.inj foundOther
      exact ⟨own.holding, own.unnesting, own.holder, own.other, own.usesEvent, own.handle⟩
    · rw [List.getElem?_set_ne (Ne.symm here)] at foundOther
      have its := others other party foundOther here
      exact ⟨its.holding, its.unnesting, its.holder, its.other, its.usesEvent, its.handle⟩

/-! ### The steps -/

/-- The fields that the threads read are as before. -/
structure Same (cs after : CIntCriticalSection) : Prop where
  threads : after.threads = cs.threads
  lLockCount : after.lLockCount = cs.lLockCount
  lInThreadCount : after.lInThreadCount = cs.lInThreadCount
  dwThreadId : after.dwThreadId = cs.dwThreadId
  hevtWait : after.hevtWait = cs.hevtWait
  signalled : after.signalled = cs.signalled

/-- A thread that goes on without touching what the others read -/
theorem Sound.quiet {cs after : CIntCriticalSection} {index : Nat} {thread moved : LockThread}
    (sound : cs.Sound) (found : cs.threads[index]? = some thread) (same : Same cs after)
    (counted : moved.counted = thread.counted) (token : moved.token = thread.token)
    (own : moved.Own cs (index + 1)) :
    Sound { after with threads := after.threads.set index moved } := by
  have few : after.lLockCount.toInt + 1 < 2 ^ 31 := same.lLockCount.symm ▸ sound.few
  refine sound.set after found same.threads ?_ few ?_ ?_ ?_ fun other party foundOther _ => ?_
  · rw [same.lLockCount, counted]
  · rw [same.signalled, same.lLockCount, token]
  · rw [same.signalled, same.hevtWait]
    exact sound.signal
  · exact own.frame same.lInThreadCount same.dwThreadId same.hevtWait
  · exact (sound.own other party foundOther).frame same.lInThreadCount same.dwThreadId
      same.hevtWait

/-- A thread without the lock goes on without touching what the others read. -/
theorem Sound.goes {cs after : CIntCriticalSection} {index : Nat} {thread : LockThread}
    {control : LockControl} (sound : cs.Sound) (found : cs.threads[index]? = some thread)
    (same : Same cs after) (free : thread.locks = 0) (other : cs.dwThreadId ≠ index + 1)
    (counted : control.counted = thread.control.counted)
    (token : control.token = thread.control.token)
    (ordinary : control.unlocks = false)
    (usesEvent : control.usesEvent = true → cs.hevtWait ≠ none)
    (handle : ∀ hevtWait, control.handle = some hevtWait →
      hevtWait ≠ none ∧ cs.hevtWait = hevtWait) :
    Sound { after with threads := after.threads.set index (thread.goes control) } := by
  refine sound.quiet found same ?_ ?_ ?_
  · simp only [LockThread.counted, LockThread.goes, counted]
  · simp only [LockThread.token, LockThread.goes, token]
  · have free' : (thread.goes control).locks = 0 := free
    exact .of_free free' ordinary (fun _ => other) usesEvent handle

/-- A thread that is at a spinlock goes on when it has it. -/
theorem Sound.spin {cs after : CIntCriticalSection} {index : Nat} {thread moved : LockThread}
    {taken : LockControl} (sound : cs.Sound) (found : cs.threads[index]? = some thread)
    (spun : cs.spin thread taken = (moved, after)) (free : thread.locks = 0)
    (other : cs.dwThreadId ≠ index + 1) (counted : taken.counted = thread.control.counted)
    (token : taken.token = thread.control.token)
    (ordinary : taken.unlocks = false) (unused : taken.usesEvent = false)
    (unread : taken.handle = none) :
    Sound { after with threads := after.threads.set index moved } := by
  rw [CIntCriticalSection.spin] at spun
  split at spun
  · cases spun
    exact sound.quiet found ⟨rfl, rfl, rfl, rfl, rfl, rfl⟩ rfl rfl (sound.own index thread found)
  · cases spun
    obtain ⟨usesEvent, handle⟩ := LockThread.eventless unused unread
    exact sound.goes found ⟨rfl, rfl, rfl, rfl, rfl, rfl⟩ free other counted token ordinary
      usesEvent handle

/-- A thread that uses the event goes on with an event. -/
theorem Sound.useEvent {cs : CIntCriticalSection} {index : Nat} {thread : LockThread}
    {used : LockControl} (tickCount : Dword) (sound : cs.Sound)
    (found : cs.threads[index]? = some thread) (free : thread.locks = 0)
    (other : cs.dwThreadId ≠ index + 1) (counted : used.counted = thread.control.counted)
    (token : used.token = thread.control.token)
    (ordinary : used.unlocks = false) (unread : used.handle = none) :
    Sound { cs.useEvent tickCount with
      threads := (cs.useEvent tickCount).threads.set index (thread.goes used) } := by
  have nothing : ∀ hevtWait, used.handle = some hevtWait →
      hevtWait ≠ none ∧ (cs.useEvent tickCount).hevtWait = hevtWait := fun hevtWait read =>
    absurd (unread.symm.trans read) (Option.some_ne_none hevtWait).symm
  cases event : cs.hevtWait with
  | some handle =>
    have same : Same cs (cs.useEvent tickCount) := by
      rw [CIntCriticalSection.useEvent, event]
      exact ⟨rfl, rfl, rfl, rfl, event.symm, rfl⟩
    refine sound.quiet found same ?_ ?_ ?_
    · simp only [LockThread.counted, LockThread.goes, counted]
    · simp only [LockThread.token, LockThread.goes, token]
    · refine .of_free free ordinary (fun _ => other) (fun _ => ?_) ?_
      · rw [event]
        exact Option.some_ne_none handle
      · rw [← same.hevtWait]
        exact nothing
  | none =>
    have unset : cs.signalled = false := by
      cases set : cs.signalled with
      | false => rfl
      | true => exact absurd event (sound.signal set)
    have created : cs.useEvent tickCount = { cs with
        hevtWait := some cs.created, signalled := false, created := cs.created + 1,
        dwLastUse := tickCount } := by
      rw [CIntCriticalSection.useEvent, event]
    rw [created] at nothing ⊢
    refine sound.set _ found rfl ?_ sound.few ?_ (by rintro ⟨⟩) ?_
      fun party place foundOther _ => ?_
    · simp only [LockThread.counted, LockThread.goes, counted]
    · simp only [LockThread.token, LockThread.goes, token, unset]
    · exact .of_free free ordinary (fun _ => other)
        (fun _ => Option.some_ne_none _) nothing
    · exact (sound.own party place foundOther).of_created rfl rfl event

/-- A thread that stands where no thread with the lock can stand has not got it. -/
theorem Sound.free {cs : CIntCriticalSection} {index : Nat} {thread : LockThread}
    (sound : cs.Sound) (found : cs.threads[index]? = some thread)
    (apart : thread.control.holding = false) : thread.locks = 0 := by
  by_contra some
  have holding := (sound.own index thread found).holding (Nat.pos_of_ne_zero some)
  exact absurd (apart.symm.trans holding) Bool.false_ne_true

/-- A thread that stands where no thread with the lock can stand is not the one of
`m_dwThreadId`. -/
theorem Sound.other {cs : CIntCriticalSection} {index : Nat} {thread : LockThread}
    (sound : cs.Sound) (found : cs.threads[index]? = some thread)
    (apart : thread.control.holding = false) (notResetting : thread.control.resets = false) :
    cs.dwThreadId ≠ index + 1 := by
  refine (sound.own index thread found).other ?_ notResetting
  rintro (some | same)
  · exact absurd (sound.free found apart) (Nat.ne_of_gt some)
  · rw [same] at apart
    cases apart

/-- A thread with the token writes who has the lock. -/
theorem Sound.writes {cs : CIntCriticalSection} {index : Nat} {thread moved : LockThread}
    (sound : cs.Sound) (after : CIntCriticalSection) (found : cs.threads[index]? = some thread)
    (one : thread.token = 1)
    (threads : after.threads = cs.threads) (lLockCount : after.lLockCount = cs.lLockCount)
    (hevtWait : after.hevtWait = cs.hevtWait) (signalled : after.signalled = cs.signalled)
    (dwThreadId : after.dwThreadId = cs.dwThreadId ∨ after.dwThreadId = index + 1 ∨
      after.dwThreadId = 0)
    (counted : moved.counted = thread.counted) (token : moved.token = 1)
    (own : moved.Own after (index + 1)) :
    Sound { after with threads := after.threads.set index moved } := by
  obtain ⟨-, -, alone⟩ := sound.alone found one
  have few : after.lLockCount.toInt + 1 < 2 ^ 31 := lLockCount.symm ▸ sound.few
  refine sound.set after found threads ?_ few ?_ ?_ own fun place party foundOther different => ?_
  · rw [lLockCount, counted]
  · rw [signalled, lLockCount, token, one]
  · rw [signalled, hevtWait]
    exact sound.signal
  · have none := alone place party foundOther different
    obtain ⟨notHolds, notResetting⟩ := LockThread.not_holds_of_token none
    refine (sound.own place party foundOther).of_token none ?_ hevtWait
    rcases dwThreadId with same | same | same
    · rw [same]
      exact (sound.own place party foundOther).other notHolds notResetting
    · omega
    · omega

/-- `InterlockedIncrement` of `Lock` -/
theorem Sound.locking {cs : CIntCriticalSection} {index : Nat} {thread : LockThread}
    {dwTimeout : Dword} (sound : cs.Sound) (found : cs.threads[index]? = some thread)
    (controlled : thread.control = .locking dwTimeout) (few : cs.lLockCount.toInt + 2 < 2 ^ 31) :
    Sound { cs with
      lLockCount := cs.lLockCount + 1
      threads := cs.threads.set index (thread.goes
        (if cs.lLockCount + 1 = 0 then .first dwTimeout else .contending dwTimeout)) } := by
  have own := sound.own index thread found
  have bound := sound.counted_le found
  have incremented : (cs.lLockCount + 1).toInt = cs.lLockCount.toInt + 1 := toInt_add_one (by omega)
  have fewAfter : (cs.lLockCount + 1).toInt + 1 < 2 ^ 31 := by omega
  have notHolding : thread.locks = 0 → cs.dwThreadId ≠ index + 1 := by
    intro free
    refine own.other ?_ (by rw [controlled]; rfl)
    rintro (some | same)
    · exact absurd free (Nat.ne_of_gt some)
    · rw [controlled] at same
      cases same
  by_cases start : cs.lLockCount + 1 = 0
  · -- No call is counted, so the thread has not got the lock yet, and nobody else has.
    rw [if_pos start]
    have zero : cs.lLockCount.toInt = -1 := (add_one_eq_zero_iff (by omega)).mp start
    have free : thread.locks = 0 := by
      simp only [LockThread.counted] at bound
      omega
    refine sound.set { cs with lLockCount := cs.lLockCount + 1 } found rfl ?_ fewAfter ?_
      sound.signal ?_ fun place party foundOther _ => ?_
    · simp only [LockThread.counted, LockThread.goes, controlled, LockControl.counted]
      omega
    · simp only [LockThread.token, LockThread.goes, controlled, LockControl.token, free, zero,
        incremented, if_true, Nat.lt_irrefl, if_false]
      simp only [show (-1 : Int) + 1 ≠ -1 by decide, if_false]
      omega
    · have free' : (thread.goes (.first dwTimeout)).locks = 0 := free
      exact .of_eventless free' rfl (fun _ => notHolding free) rfl rfl
    · exact (sound.own place party foundOther).frame rfl rfl rfl
  · rw [if_neg start]
    have started : cs.lLockCount.toInt ≠ -1 := fun zero =>
      start ((add_one_eq_zero_iff (by omega)).mpr zero)
    have still : (cs.lLockCount + 1).toInt ≠ -1 := by omega
    refine sound.set { cs with lLockCount := cs.lLockCount + 1 } found rfl ?_ fewAfter ?_
      sound.signal ?_ fun place party foundOther _ => ?_
    · simp only [LockThread.counted, LockThread.goes, controlled, LockControl.counted]
      omega
    · simp only [LockThread.token, LockThread.goes, controlled, LockControl.token, if_neg started,
        if_neg still]
      rfl
    · refine .mk_eventless (fun _ => rfl) (by rintro ⟨⟩) rfl rfl (fun holds => ?_)
        fun notHolds _ => ?_
      · have some : 0 < thread.locks := holds.resolve_right (by simp [LockThread.goes])
        simpa [controlled, LockThread.goes] using own.holder (Or.inl some)
      · refine notHolding (Nat.eq_zero_of_not_pos fun some => notHolds (Or.inl some))
    · exact (sound.own place party foundOther).frame rfl rfl rfl

/-- `Lock` gets the lock for the first time. -/
theorem Sound.owns {cs : CIntCriticalSection} {index : Nat} {thread : LockThread}
    (sound : cs.Sound) (found : cs.threads[index]? = some thread)
    (apart : thread.control.holding = false) (one : thread.control.token = 1)
    (counted : thread.control.counted = 1) :
    Sound { cs with
      dwThreadId := index + 1, lInThreadCount := 1
      threads := cs.threads.set index thread.owns } := by
  have free := sound.free found apart
  refine sound.writes { cs with dwThreadId := index + 1, lInThreadCount := 1 } found ?_
    rfl rfl rfl rfl (Or.inr (Or.inl rfl)) ?_ ?_ ?_
  · rw [LockThread.token, free, if_neg (Nat.lt_irrefl 0), one]
  · rw [LockThread.counted, LockThread.counted, counted]
    rfl
  · simp [LockThread.token, LockThread.owns]
  · refine .mk_eventless (fun _ => rfl) (by rintro ⟨⟩) rfl rfl (fun _ => ⟨rfl, ?_⟩)
      fun notHolds => ?_
    · simp [LockThread.owns, free]
    · exact absurd (Or.inl (Nat.succ_pos thread.locks)) notHolds

/-- `Lock` gets the lock again. -/
theorem Sound.nests {cs : CIntCriticalSection} {index : Nat} {thread : LockThread}
    {dwTimeout : Dword} (sound : cs.Sound) (found : cs.threads[index]? = some thread)
    (controlled : thread.control = .contending dwTimeout) (same : cs.dwThreadId = index + 1) :
    Sound { cs with
      lInThreadCount := cs.lInThreadCount + 1
      threads := cs.threads.set index thread.owns } := by
  have own := sound.own index thread found
  have some : 0 < thread.locks := by
    by_contra none
    refine own.other ?_ (by rw [controlled]; rfl) same
    rintro (some | unlocking)
    · exact none some
    · rw [controlled] at unlocking
      cases unlocking
  have counted := (own.holder (Or.inl some)).2
  have bound := sound.counted_le found
  have few := sound.few
  rw [LockThread.counted, controlled, LockControl.counted] at bound
  rw [controlled, if_neg (by rintro ⟨⟩)] at counted
  have incremented : (cs.lInThreadCount + 1).toInt = cs.lInThreadCount.toInt + 1 :=
    toInt_add_one (by omega)
  refine sound.writes { cs with lInThreadCount := cs.lInThreadCount + 1 } found ?_ rfl rfl rfl rfl
    (Or.inl rfl) ?_ ?_ ?_
  · rw [LockThread.token, if_pos some]
  · rw [LockThread.counted, LockThread.counted, controlled]
    rfl
  · simp [LockThread.token, LockThread.owns]
  · refine .mk_eventless (fun _ => rfl) (by rintro ⟨⟩) rfl rfl (fun _ => ⟨same, ?_⟩)
      fun notHolds => ?_
    · show (cs.lInThreadCount + 1).toInt = _
      rw [incremented, counted]
      simp [LockThread.owns]
    · exact absurd (Or.inl (Nat.succ_pos thread.locks)) notHolds

/-- `Lock` returns false and leaves its call in the count. -/
theorem Sound.fails {cs : CIntCriticalSection} {index : Nat} {thread : LockThread}
    (sound : cs.Sound) (found : cs.threads[index]? = some thread) (free : thread.locks = 0)
    (counted : thread.control.counted = 1) (token : thread.control.token = 0)
    (other : cs.dwThreadId ≠ index + 1) :
    Sound { cs with threads := cs.threads.set index thread.fails } := by
  refine sound.quiet found ⟨rfl, rfl, rfl, rfl, rfl, rfl⟩ ?_ ?_ ?_
  · simp only [LockThread.counted, LockThread.fails, counted]
    simp only [LockControl.counted]
    omega
  · simp only [LockThread.token, LockThread.fails, token]
    rfl
  · have free' : thread.fails.locks = 0 := free
    exact .of_eventless free' rfl (fun _ => other) rfl rfl

/-- The wait takes the event. -/
theorem Sound.granted {cs : CIntCriticalSection} {index : Nat} {thread : LockThread}
    {dwTimeout : Dword} {hevtWait : Option Nat} (sound : cs.Sound)
    (found : cs.threads[index]? = some thread)
    (controlled : thread.control = .blocked dwTimeout hevtWait) (set : cs.signalled = true) :
    Sound { cs with
      signalled := false
      threads := cs.threads.set index (thread.goes (.granted dwTimeout)) } := by
  have apart : thread.control.holding = false := by rw [controlled]; rfl
  have free := sound.free found apart
  have other := sound.other found apart (by rw [controlled]; rfl)
  refine sound.set { cs with signalled := false } found rfl ?_ sound.few ?_ (by rintro ⟨⟩) ?_
    fun place party foundOther _ => ?_
  · simp only [LockThread.counted, LockThread.goes, controlled, LockControl.counted]
  · simp only [LockThread.token, LockThread.goes, controlled, LockControl.token, free, set, if_true,
      Nat.lt_irrefl, if_false, Bool.false_eq_true]
  · have free' : (thread.goes (.granted dwTimeout)).locks = 0 := free
    exact .of_eventless free' rfl (fun _ => other) rfl rfl
  · exact (sound.own place party foundOther).frame rfl rfl rfl

/-- `Unlock` decrements the count of the thread. -/
theorem Sound.unlocking {cs : CIntCriticalSection} {index : Nat} {thread : LockThread}
    (sound : cs.Sound) (found : cs.threads[index]? = some thread)
    (controlled : thread.control = .unlocking) :
    Sound { cs with
      lInThreadCount := cs.lInThreadCount - 1
      threads := cs.threads.set index
        (thread.goes (if 0 < (cs.lInThreadCount - 1).toInt then .unnesting else .resetting)) } := by
  obtain ⟨same, counted⟩ := (sound.own index thread found).holder (Or.inr controlled)
  rw [if_pos controlled] at counted
  have one : thread.token = 1 := by
    rw [LockThread.token, controlled]
    split <;> rfl
  have decremented : (cs.lInThreadCount - 1).toInt = cs.lInThreadCount.toInt - 1 :=
    toInt_sub_one (by omega)
  have nested : 0 < (cs.lInThreadCount - 1).toInt ↔ 0 < thread.locks := by omega
  refine sound.writes { cs with lInThreadCount := cs.lInThreadCount - 1 } found one rfl rfl rfl rfl
    (Or.inl rfl) ?_ ?_ ?_
  · rw [LockThread.counted, LockThread.counted, controlled]
    split <;> rfl
  · by_cases some : 0 < thread.locks
    · exact if_pos some
    · rw [if_neg (fun more => some (nested.mp more))]
      exact if_neg some
  · by_cases some : 0 < thread.locks
    · rw [if_pos (nested.mpr some)]
      refine .mk_eventless (fun _ => rfl) (fun _ => some) rfl rfl (fun _ => ⟨same, ?_⟩)
        fun notHolds => ?_
      · show (cs.lInThreadCount - 1).toInt = _
        rw [decremented, counted]
        simp [LockThread.goes]
      · exact absurd (Or.inl some) notHolds
    · rw [if_neg (fun more => some (nested.mp more))]
      have free' : (thread.goes .resetting).locks = 0 := Nat.eq_zero_of_not_pos some
      exact .of_eventless free' rfl (fun resets => by cases resets) rfl rfl

/-- `Unlock` of a thread that keeps the lock -/
theorem Sound.unnesting {cs : CIntCriticalSection} {index : Nat} {thread : LockThread}
    (sound : cs.Sound) (found : cs.threads[index]? = some thread)
    (controlled : thread.control = .unnesting) :
    Sound { cs with
      lLockCount := cs.lLockCount - 1
      threads := cs.threads.set index (thread.goes .outside) } := by
  have own := sound.own index thread found
  have some := own.unnesting controlled
  have bound := sound.counted_le found
  rw [LockThread.counted, controlled, LockControl.counted] at bound
  have decremented : (cs.lLockCount - 1).toInt = cs.lLockCount.toInt - 1 := toInt_sub_one (by omega)
  have few : (cs.lLockCount - 1).toInt + 1 < 2 ^ 31 := by
    have before := sound.few
    omega
  have one : thread.token = 1 := by rw [LockThread.token, if_pos some]
  refine sound.set { cs with lLockCount := cs.lLockCount - 1 } found rfl ?_ few ?_ sound.signal ?_
    fun place party foundOther _ => (sound.own place party foundOther).frame rfl rfl rfl
  · simp only [LockThread.counted, LockThread.goes, controlled, LockControl.counted]
    omega
  · have after : (thread.goes .outside).token = 1 := by
      rw [LockThread.token, LockThread.goes, if_pos some]
    rw [after, one, if_neg (by omega : cs.lLockCount.toInt ≠ -1),
      if_neg (by omega : (cs.lLockCount - 1).toInt ≠ -1)]
  · refine .mk_eventless (fun _ => rfl) (by rintro ⟨⟩) rfl rfl (fun _ => ?_)
      fun notHolds => ?_
    · simpa [LockThread.goes, controlled] using own.holder (Or.inl some)
    · exact absurd (Or.inl some) notHolds

/-- `Unlock` gives up the lock and finds out whether a call is still counted. -/
theorem Sound.decrementing {cs : CIntCriticalSection} {index : Nat} {thread : LockThread}
    (sound : cs.Sound) (found : cs.threads[index]? = some thread)
    (controlled : thread.control = .decrementing) :
    Sound { cs with
      lLockCount := cs.lLockCount - 1
      threads := cs.threads.set index
        (thread.goes (if 0 ≤ (cs.lLockCount - 1).toInt then .wakeSpinning else .checking)) } := by
  have apart : thread.control.holding = false := by rw [controlled]; rfl
  have free := sound.free found apart
  have other := sound.other found apart (by rw [controlled]; rfl)
  have bound := sound.counted_le found
  rw [LockThread.counted, controlled, LockControl.counted] at bound
  have token : thread.token = 1 := by
    rw [LockThread.token, free, if_neg (Nat.lt_irrefl 0), controlled]
    rfl
  have decremented : (cs.lLockCount - 1).toInt = cs.lLockCount.toInt - 1 := toInt_sub_one (by omega)
  have few : (cs.lLockCount - 1).toInt + 1 < 2 ^ 31 := by
    have before := sound.few
    omega
  refine sound.set { cs with lLockCount := cs.lLockCount - 1 } found rfl ?_ few ?_ sound.signal ?_
    fun place party foundOther _ => (sound.own place party foundOther).frame rfl rfl rfl
  · have counted :
        (thread.goes (if 0 ≤ (cs.lLockCount - 1).toInt then .wakeSpinning else .checking)).counted +
        1 = thread.counted := by
      rw [LockThread.counted, LockThread.counted, controlled]
      split <;> simp [LockThread.goes, LockControl.counted] <;> omega
    simp only
    omega
  · rw [token, if_neg (by omega : cs.lLockCount.toInt ≠ -1)]
    by_cases more : 0 ≤ (cs.lLockCount - 1).toInt
    · have after : (thread.goes .wakeSpinning).token = 1 := by
        rw [LockThread.token, LockThread.goes, free]
        rfl
      rw [if_pos more, after, if_neg (by omega : (cs.lLockCount - 1).toInt ≠ -1)]
    · have after : (thread.goes .checking).token = 0 := by
        rw [LockThread.token, LockThread.goes, free]
        rfl
      rw [if_neg more, after, if_pos (by omega : (cs.lLockCount - 1).toInt = -1)]
      dsimp only
      omega
  · have free' :
        (thread.goes (if 0 ≤ (cs.lLockCount - 1).toInt then .wakeSpinning else .checking)).locks =
          0 := free
    by_cases more : 0 ≤ (cs.lLockCount - 1).toInt
    · rw [if_pos more] at free' ⊢
      exact .of_eventless free' rfl (fun _ => other) rfl rfl
    · rw [if_neg more] at free' ⊢
      exact .of_eventless free' rfl (fun _ => other) rfl rfl

/-- `SetEvent` of `UnblockWaiter` -/
theorem Sound.wakeSetting {cs : CIntCriticalSection} {index : Nat} {thread : LockThread}
    {hevtWait : Option Nat} (sound : cs.Sound) (found : cs.threads[index]? = some thread)
    (controlled : thread.control = .wakeSetting hevtWait) :
    Sound { cs with
      signalled := true
      threads := cs.threads.set index (thread.goes .outside) } := by
  have own := sound.own index thread found
  have apart : thread.control.holding = false := by rw [controlled]; rfl
  have free := sound.free found apart
  have other := sound.other found apart (by rw [controlled]; rfl)
  obtain ⟨present, same⟩ := own.handle hevtWait (by rw [controlled]; rfl)
  have one : thread.token = 1 := by
    rw [LockThread.token, free, if_neg (Nat.lt_irrefl 0), controlled]
    rfl
  obtain ⟨-, unset, -⟩ := sound.alone found one
  refine sound.set { cs with signalled := true } found rfl ?_ sound.few ?_
    (fun _ => same ▸ present) ?_
    fun place party foundOther _ => (sound.own place party foundOther).frame rfl rfl rfl
  · rw [LockThread.counted, LockThread.counted, controlled]
    rfl
  · have after : (thread.goes .outside).token = 0 := by
      rw [LockThread.token, LockThread.goes, free]
      rfl
    rw [after, one, unset]
    rfl
  · have free' : (thread.goes .outside).locks = 0 := free
    exact .of_eventless free' rfl (fun _ => other) rfl rfl

/-- Where no call is counted, no thread uses the event. -/
theorem Sound.closing {cs : CIntCriticalSection} {index : Nat} {thread : LockThread}
    (sound : cs.Sound) (found : cs.threads[index]? = some thread)
    (controlled : thread.control = .closing) (start : cs.lLockCount.toInt = -1) :
    Sound { cs with
      hevtWait := none, signalled := false
      threads := cs.threads.set index (thread.goes .closeReleasing) } := by
  have apart : thread.control.holding = false := by rw [controlled]; rfl
  have free := sound.free found apart
  have other := sound.other found apart (by rw [controlled]; rfl)
  have tokens := sound.token
  rw [if_pos start, Nat.add_eq_zero_iff] at tokens
  have unset : cs.signalled = false := by
    cases set : cs.signalled with
    | false => rfl
    | true =>
      rw [set] at tokens
      cases tokens.2
  refine sound.set { cs with hevtWait := none, signalled := false } found rfl ?_ sound.few ?_
    (by rintro ⟨⟩) ?_ fun place party foundOther _ => ?_
  · rw [LockThread.counted, LockThread.counted, controlled]
    rfl
  · rw [LockThread.token, LockThread.token, controlled, unset]
    rfl
  · have free' : (thread.goes .closeReleasing).locks = 0 := free
    exact .of_eventless free' rfl (fun _ => other) rfl rfl
  · have bound := sound.counted_le foundOther
    have uncounted : party.counted = 0 := by omega
    have none : party.token = 0 :=
      List.sum_eq_zero_iff.mp tokens.1 _ (List.mem_map_of_mem (List.mem_of_getElem? foundOther))
    exact (sound.own place party foundOther).of_closed uncounted none rfl

/-- A thread that is not the one of `m_dwThreadId` does not have the lock. -/
theorem Sound.free_of_other {cs : CIntCriticalSection} {index : Nat} {thread : LockThread}
    (sound : cs.Sound) (found : cs.threads[index]? = some thread)
    (other : cs.dwThreadId ≠ index + 1) : thread.locks = 0 := by
  by_contra some
  exact other ((sound.own index thread found).holder (Or.inl (Nat.pos_of_ne_zero some))).1

/-- The thread closes the event only while no call is counted, and has its call counted only while
fewer than 2^31 - 1 calls are. -/
def Allows (cs : CIntCriticalSection) (thread : LockThread) : Prop :=
  (thread.control = .closing → cs.lLockCount.toInt = -1) ∧
    (thread.control.counts = true → cs.lLockCount.toInt + 2 < 2 ^ 31)

/-- Every step of a thread inside of the lock keeps the lock sound, if an event is closed only while
no call is counted, and the count stays in its range. -/
theorem Sound.threadStep {cs after : CIntCriticalSection} {index : Nat}
    {thread moved : LockThread} {tickCount : Dword} {expired : Bool} (sound : cs.Sound)
    (found : cs.threads[index]? = some thread)
    (allowed : cs.Allows thread)
    (stepped : cs.threadStep (index + 1) tickCount expired thread = some (moved, after)) :
    Sound { after with threads := after.threads.set index moved } := by
  have unchanged : Same cs cs := ⟨rfl, rfl, rfl, rfl, rfl, rfl⟩
  have free := sound.free found
  have other := sound.other found
  have own := sound.own index thread found
  obtain ⟨control, locks, failures⟩ := thread
  cases control with
  | outside => cases stepped
  | locking dwTimeout =>
    cases stepped
    exact sound.locking found rfl (allowed.2 rfl)
  | first dwTimeout | granted dwTimeout =>
    cases stepped
    exact sound.owns found rfl rfl rfl
  | contending dwTimeout =>
    rw [CIntCriticalSection.threadStep] at stepped
    dsimp only at stepped
    split_ifs at stepped with same zero
    · cases stepped
      exact sound.nests found rfl same
    · cases stepped
      exact sound.fails found (sound.free_of_other found same) rfl rfl same
    · cases stepped
      exact sound.goes found unchanged (sound.free_of_other found same) same rfl rfl rfl
        (LockThread.eventless rfl rfl).1 (LockThread.eventless rfl rfl).2
  | spinning dwTimeout =>
    rw [CIntCriticalSection.threadStep] at stepped
    dsimp only at stepped
    split_ifs at stepped with fails
    · cases stepped
      exact sound.fails found (free rfl) rfl rfl (other rfl rfl)
    · have spun : cs.spin ⟨.spinning dwTimeout, locks, failures⟩ (.creating dwTimeout) =
          (moved, after) := Option.some.inj stepped
      exact sound.spin found spun (free rfl) (other rfl rfl) rfl rfl rfl
        rfl rfl
  | creating dwTimeout =>
    cases stepped
    exact sound.useEvent tickCount found (free rfl) (other rfl rfl) rfl rfl
      rfl rfl
  | releasing dwTimeout =>
    cases stepped
    exact sound.goes found ⟨rfl, rfl, rfl, rfl, rfl, rfl⟩ (free rfl) (other rfl rfl) rfl rfl
      rfl (fun _ => own.usesEvent rfl) (by rintro _ ⟨⟩)
  | reading dwTimeout =>
    cases stepped
    refine sound.goes found unchanged (free rfl) (other rfl rfl) rfl rfl rfl (by rintro ⟨⟩) ?_
    rintro hevtWait ⟨⟩
    exact ⟨own.usesEvent rfl, rfl⟩
  | blocked dwTimeout hevtWait =>
    obtain ⟨present, same⟩ := own.handle hevtWait rfl
    rw [CIntCriticalSection.threadStep] at stepped
    dsimp only at stepped
    split_ifs at stepped with closed set fails
    · rcases closed with absent | different
      · exact absurd absent present
      · exact absurd same different
    · cases stepped
      exact sound.granted found rfl set
    · cases stepped
      exact sound.fails found (free rfl) rfl rfl (other rfl rfl)
  | unlocking =>
    cases stepped
    exact sound.unlocking found rfl
  | unnesting =>
    cases stepped
    exact sound.unnesting found rfl
  | resetting =>
    cases stepped
    have none : locks = 0 := free rfl
    subst none
    refine sound.writes { cs with dwThreadId := 0 } found rfl rfl rfl rfl rfl (Or.inr (Or.inr rfl))
      rfl rfl ?_
    exact .of_eventless rfl rfl (fun _ => (Nat.succ_ne_zero index).symm) rfl rfl
  | decrementing =>
    cases stepped
    exact sound.decrementing found rfl
  | wakeSpinning =>
    have spun : cs.spin ⟨.wakeSpinning, locks, failures⟩ .wakeCreating = (moved, after) :=
      Option.some.inj stepped
    exact sound.spin found spun (free rfl) (other rfl rfl) rfl rfl rfl
      rfl rfl
  | wakeCreating =>
    cases stepped
    exact sound.useEvent tickCount found (free rfl) (other rfl rfl) rfl rfl
      rfl rfl
  | wakeReleasing =>
    cases stepped
    exact sound.goes found ⟨rfl, rfl, rfl, rfl, rfl, rfl⟩ (free rfl) (other rfl rfl) rfl rfl
      rfl (fun _ => own.usesEvent rfl) (by rintro _ ⟨⟩)
  | wakeReading =>
    cases stepped
    refine sound.goes found unchanged (free rfl) (other rfl rfl) rfl rfl rfl (by rintro ⟨⟩) ?_
    rintro hevtWait ⟨⟩
    exact ⟨own.usesEvent rfl, rfl⟩
  | wakeSetting hevtWait =>
    obtain ⟨present, same⟩ := own.handle hevtWait rfl
    rw [CIntCriticalSection.threadStep] at stepped
    dsimp only at stepped
    split_ifs at stepped with closed
    · rcases closed with absent | different
      · exact absurd absent present
      · exact absurd same different
    · cases stepped
      exact sound.wakeSetting found rfl
  | checking =>
    rw [CIntCriticalSection.threadStep] at stepped
    dsimp only at stepped
    split_ifs at stepped
    all_goals
      cases stepped
      exact sound.goes found unchanged (free rfl) (other rfl rfl) rfl rfl rfl
        (LockThread.eventless rfl rfl).1 (LockThread.eventless rfl rfl).2
  | closeSpinning =>
    have spun : cs.spin ⟨.closeSpinning, locks, failures⟩ .closing = (moved, after) :=
      Option.some.inj stepped
    exact sound.spin found spun (free rfl) (other rfl rfl) rfl rfl rfl
      rfl rfl
  | closing =>
    cases stepped
    exact sound.closing found rfl (allowed.1 rfl)
  | closeReleasing =>
    cases stepped
    exact sound.goes found ⟨rfl, rfl, rfl, rfl, rfl, rfl⟩ (free rfl) (other rfl rfl) rfl rfl
      rfl (LockThread.eventless rfl rfl).1 (LockThread.eventless rfl rfl).2

/-- A call of `Lock` or `Unlock` begins, or a thread goes on. -/
theorem Sound.act {cs after : CIntCriticalSection} {thread moved : LockThread}
    {action : LockAction} (sound : cs.Sound) (found : cs.threads[action.index]? = some thread)
    (allowed : cs.Allows thread)
    (acted : cs.act thread action = some (moved, after)) :
    Sound { after with threads := after.threads.set action.index moved } := by
  have unchanged : Same cs cs := ⟨rfl, rfl, rfl, rfl, rfl, rfl⟩
  have own := sound.own action.index thread found
  obtain ⟨control, locks, failures⟩ := thread
  cases action with
  | lock index dwTimeout =>
    rw [CIntCriticalSection.act] at acted
    split_ifs at acted with outside
    cases acted
    dsimp only at outside
    subst outside
    refine sound.quiet found unchanged rfl rfl
      (.mk_eventless (fun _ => rfl) (by rintro ⟨⟩) rfl rfl (fun holds => ?_) fun notHolds _ => ?_)
    · exact own.holder (Or.inl (holds.resolve_right (by rintro ⟨⟩)))
    · refine own.other ?_ rfl
      rintro (some | same)
      · exact notHolds (Or.inl some)
      · cases same
  | unlock index =>
    rw [CIntCriticalSection.act] at acted
    split_ifs at acted with has
    cases acted
    dsimp only at has
    obtain ⟨rfl, some⟩ := has
    obtain ⟨same, counted⟩ := own.holder (Or.inl some)
    refine sound.quiet found unchanged ?_ ?_
      (.mk_eventless (fun _ => rfl) (by rintro ⟨⟩) rfl rfl (fun _ => ⟨same, ?_⟩) fun notHolds => ?_)
    · simp only [LockThread.counted, LockControl.counted]
      omega
    · simp only [LockThread.token, LockControl.token, if_pos some, ite_self]
    · simp only [reduceCtorEq, if_false, add_zero] at counted
      simp only [if_true]
      omega
    · exact absurd (Or.inr rfl) notHolds
  | next index tickCount expired => exact sound.threadStep found allowed acted

/-- The thread of the action is allowed to take its step. -/
def Meets (cs : CIntCriticalSection) (action : LockAction) : Prop :=
  ∀ thread ∈ cs.threads[action.index]?, cs.Allows thread

instance (cs : CIntCriticalSection) (action : LockAction) : Decidable (cs.Meets action) :=
  inferInstanceAs (Decidable (∀ thread ∈ cs.threads[action.index]?, _ ∧ _))

variable {count : Nat} {actions : List LockAction} {cs : CIntCriticalSection}

/-- Every run of such steps keeps the lock sound. -/
theorem sound_of_run (reached : run step actions (new count) = some cs)
    (along : Along step Meets actions (new count)) : cs.Sound := by
  refine run_invariant_along (fun state action next meets stepped sound => ?_) reached along
    (sound_new count)
  obtain ⟨thread, found, moved, after, acted, rfl⟩ := step_eq_some.mp stepped
  exact sound.act found (meets thread found) acted

/-! ### What a lock is for -/

/-- Two threads never have the lock, and the thread that has it is the one of `m_dwThreadId`, as
often as `m_lInThreadCount` says. -/
theorem exclusive_of_run (reached : run step actions (new count) = some cs)
    (along : Along step Meets actions (new count)) {index : Nat} {thread : LockThread}
    (found : cs.threads[index]? = some thread) (has : 0 < thread.locks) :
    (∀ other (party : LockThread), cs.threads[other]? = some party → 0 < party.locks →
        other = index) ∧
      (thread.control = .outside →
        cs.dwThreadId = index + 1 ∧ cs.lInThreadCount.toInt = thread.locks) := by
  have sound := sound_of_run reached along
  have one : thread.token = 1 := if_pos has
  obtain ⟨-, -, alone⟩ := sound.alone found one
  refine ⟨fun other party foundOther also => ?_, fun outside => ?_⟩
  · by_contra different
    have none := alone other party foundOther different
    rw [LockThread.token, if_pos also] at none
    cases none
  · simpa [outside] using (sound.own index thread found).holder (Or.inl has)

/-- When no thread has the lock, is about to have it or hands it on, a thread in its wait is let
in. -/
theorem granted_of_run (reached : run step actions (new count) = some cs)
    (along : Along step Meets actions (new count))
    (free : ∀ thread ∈ cs.threads, thread.token = 0) {index : Nat} {thread : LockThread}
    {dwTimeout : Dword} {hevtWait : Option Nat} (found : cs.threads[index]? = some thread)
    (waits : thread.control = .blocked dwTimeout hevtWait) (tickCount : Dword) (expired : Bool) :
    ∃ next, cs.step (.next index tickCount expired) = some next ∧
      next.threads[index]? = some (thread.goes (.granted dwTimeout)) := by
  have sound := sound_of_run reached along
  have bound := sound.counted_le found
  rw [LockThread.counted, waits, LockControl.counted] at bound
  have set : cs.signalled = true := by
    have tokens := sound.token
    have zero : (cs.threads.map LockThread.token).sum = 0 :=
      List.sum_eq_zero_iff.mpr fun token member => by
        obtain ⟨party, inside, rfl⟩ := List.mem_map.mp member
        exact free party inside
    rw [zero, if_neg (by omega : cs.lLockCount.toInt ≠ -1)] at tokens
    by_contra unset
    rw [if_neg unset] at tokens
    cases tokens
  obtain ⟨present, same⟩ := (sound.own index thread found).handle hevtWait (by rw [waits]; rfl)
  have moves : cs.act thread (.next index tickCount expired) =
      some (thread.goes (.granted dwTimeout), { cs with signalled := false }) := by
    rw [CIntCriticalSection.act, CIntCriticalSection.threadStep, waits]
    dsimp only
    rw [if_neg (not_or.mpr ⟨present, not_not.mpr same⟩), if_pos set]
  refine ⟨_, step_eq_some.mpr ⟨thread, found, _, _, moves, rfl⟩, ?_⟩
  exact List.getElem?_set_self (List.getElem?_eq_some_iff.mp found).1

/-- Once a call of `Lock` has returned false, a thread that tries to get the lock without waiting,
and does not have it already, does not get it: the count never returns to its start. -/
theorem try_fails_of_run {earlier others : List LockAction} {start last : CIntCriticalSection}
    {party thread : LockThread} {index : Nat} {firstTick secondTick : Dword}
    {firstExpired secondExpired : Bool}
    (before : run step earlier (new count) = some start) (failed : party ∈ start.threads)
    (positive : 0 < party.failures) (found : start.threads[index]? = some thread)
    (tries : thread.control = .locking 0) (free : thread.locks = 0)
    (apart : ∀ action ∈ others, action.index ≠ index)
    (reached : run step (.next index firstTick firstExpired ::
      (others ++ [.next index secondTick secondExpired])) start = some last)
    (along : Along step Meets (earlier ++ .next index firstTick firstExpired ::
      (others ++ [.next index secondTick secondExpired])) (new count)) :
    last.threads[index]? = some thread.fails := by
  obtain ⟨middle, first, remaining⟩ := run_cons_eq_some.mp reached
  obtain ⟨late, between, second⟩ := run_snoc.mp remaining
  have toLate : run step (earlier ++ .next index firstTick firstExpired :: others) (new count) =
      some late := run_split.mpr ⟨start, middle, before, first, between⟩
  have soundStart := sound_of_run before (along.append before).1
  have alongLate : Along step Meets ((earlier ++ .next index firstTick firstExpired ::
      others) ++ [.next index secondTick secondExpired]) (new count) := by
    rwa [List.append_assoc, List.cons_append]
  have soundLate := sound_of_run toLate (alongLate.append toLate).1
  have counted : start.lLockCount + 1 ≠ 0 := by
    obtain ⟨place, foundParty⟩ := List.mem_iff_getElem?.mp failed
    have bound := soundStart.counted_le foundParty
    rw [LockThread.counted] at bound
    rw [Ne, add_one_eq_zero_iff (by have few := soundStart.few; omega)]
    omega
  have contends : middle.threads[index]? = some (thread.goes (.contending 0)) := by
    obtain ⟨same, foundAgain, moved, after, acted, rfl⟩ := step_eq_some.mp first
    obtain rfl : thread = same := Option.some.inj (found.symm.trans foundAgain)
    rw [CIntCriticalSection.act, CIntCriticalSection.threadStep, tries] at acted
    cases acted
    rw [if_neg counted]
    exact List.getElem?_set_self (List.getElem?_eq_some_iff.mp found).1
  have foundLate := (threads_of_apart apart between).trans contends
  have other : late.dwThreadId ≠ index + 1 := by
    refine (soundLate.own index _ foundLate).other ?_ rfl
    rintro (has | unlocking)
    · exact absurd free (Nat.ne_of_gt has)
    · cases unlocking
  obtain ⟨same, foundAgain, moved, after, acted, rfl⟩ := step_eq_some.mp second
  obtain rfl := Option.some.inj (foundLate.symm.trans foundAgain)
  have returns : late.act (thread.goes (.contending 0)) (.next index secondTick secondExpired) =
      some (thread.fails, late) := by
    rw [CIntCriticalSection.act, CIntCriticalSection.threadStep, LockThread.goes]
    dsimp only
    rw [if_neg other, if_pos rfl]
    rfl
  cases returns.symm.trans acted
  exact List.getElem?_set_self (List.getElem?_eq_some_iff.mp foundLate).1

end CIntCriticalSection

namespace Example

/-- A thread takes some steps at a tick count; its spins and waits do not time out. -/
def lockNext (index tick steps : Nat) : List LockAction :=
  List.replicate steps (.next index (BitVec.ofNat 32 tick) false)

/-- One thread has the lock, twice, a second one waits for it, and a third one tries to get it. -/
def lockContended : List LockAction :=
  [.lock 0 infiniteTimeout] ++ lockNext 0 0 2 ++ [.lock 0 infiniteTimeout] ++ lockNext 0 0 2 ++
    [.lock 1 infiniteTimeout] ++ lockNext 1 0 6 ++ [.lock 2 0#32] ++ lockNext 2 0 2

/-- The first thread gives up the lock, both times. -/
def lockGivenUp : List LockAction :=
  lockContended ++ [.unlock 0] ++ lockNext 0 0 2 ++ [.unlock 0] ++ lockNext 0 0 8

/-- The second thread has the lock and gives it up, and the third one tries again. -/
def lockFree : List LockAction :=
  lockGivenUp ++ lockNext 1 0 2 ++ [.unlock 1] ++ lockNext 1 0 8 ++ [.lock 2 0#32]

/-- A thread is about to close the event that has not been used for a minute, while a first thread
gets the lock and another one is about to wait. -/
def lockStolen : List LockAction :=
  [.lock 0 infiniteTimeout] ++ lockNext 0 0 2 ++ [.lock 1 infiniteTimeout] ++ lockNext 1 0 6 ++
    [.unlock 0] ++ lockNext 0 0 8 ++ lockNext 1 0 2 ++ [.unlock 1] ++ lockNext 1 61000 4 ++
    [.lock 0 infiniteTimeout] ++ lockNext 0 61000 2 ++ [.lock 2 infiniteTimeout] ++
    lockNext 2 61000 5 ++ lockNext 1 61000 2 ++ lockNext 2 61000 3

end Example

namespace CIntCriticalSection

/-- The first thread has the lock twice. -/
theorem exclusive_of_run_contended :
    ∃ cs, run step Example.lockContended (new 3) = some cs ∧
      cs.threads[1]? = some ⟨.blocked infiniteTimeout (some 0), 0, 0⟩ ∧
      cs.dwThreadId = 1 ∧ cs.lInThreadCount.toInt = 2 := by
  have reached : run step Example.lockContended (new 3) = some _ := rfl
  have along : Along step Meets Example.lockContended (new 3) := by decide
  have has : 0 < (⟨.outside, 2, 0⟩ : LockThread).locks := by decide
  exact ⟨_, reached, rfl, (@exclusive_of_run 3 _ _ reached along 0 _ rfl has).2 rfl⟩

/-- Where the event is closed while a call is counted, two threads have the lock. -/
theorem two_have_lockStolen :
    ∃ cs, run step Example.lockStolen (new 3) = some cs ∧
      cs.threads = [⟨.outside, 1, 0⟩, ⟨.closeReleasing, 0, 0⟩, ⟨.outside, 1, 0⟩] :=
  ⟨_, rfl, rfl⟩

/-- The second thread is let in when the first one has given up the lock. -/
theorem granted_of_run_givenUp :
    ∃ cs next, run step Example.lockGivenUp (new 3) = some cs ∧
      cs.step (.next 1 0#32 false) = some next ∧
      next.threads[1]? = some ⟨.granted infiniteTimeout, 0, 0⟩ := by
  have reached : run step Example.lockGivenUp (new 3) = some _ := rfl
  have along : Along step Meets Example.lockGivenUp (new 3) := by decide
  obtain ⟨next, stepped, granted⟩ := @granted_of_run 3 _ _ reached along (by decide) 1
    ⟨.blocked infiniteTimeout (some 0), 0, 0⟩ infiniteTimeout (some 0) rfl rfl 0#32 false
  exact ⟨_, next, reached, stepped, granted⟩

/-- The third thread does not get the lock, although nobody has it. -/
theorem try_fails_of_run_lockFree :
    ∃ cs last, run step Example.lockFree (new 3) = some cs ∧
      cs.threads.map LockThread.locks = [0, 0, 0] ∧
      run step [.next 2 0#32 false, .next 2 0#32 false] cs = some last ∧
      last.threads[2]? = some ⟨.outside, 0, 2⟩ := by
  have before : run step Example.lockFree (new 3) = some _ := rfl
  have along : Along step Meets
      (Example.lockFree ++ [.next 2 0#32 false, .next 2 0#32 false]) (new 3) := by decide
  have fails := @try_fails_of_run 3 Example.lockFree [] _ _ ⟨.locking 0#32, 0, 1⟩
    ⟨.locking 0#32, 0, 1⟩ 2 0#32 0#32 false false before (by decide) (by decide) rfl rfl rfl
    (by simp) rfl along
  exact ⟨_, _, before, rfl, rfl, fails⟩

end CIntCriticalSection

end JnTapi
