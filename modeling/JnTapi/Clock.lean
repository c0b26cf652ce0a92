/-
This file models what the program reads from its environment and the small
objects that count time and ids.

The tick count and the clock are 32-bit values that wrap. A reading is what one
call of a handler's method finds: the tick count, the clock and the registry
value that switches the call time-outs off. A method reads each of them as one
value, however often it asks for it. The milliseconds between two readings are counted
in doubles, so that now and then one is missing.
-/

import JnTapi.Library.Doubles
import Mathlib.Data.BitVec

namespace JnTapi

open Library

/-- `long`, 32 bits wide and signed -/
abbrev Long := BitVec 32

/-- `DWORD`, 32 bits wide and unsigned -/
abbrev Dword := BitVec 32

/-- Named, so that every search for an id in a list is decided with the same proof -/
theorem lawfulBEq_long : LawfulBEq Long := inferInstance

/-- What one call of a handler's method reads from outside the program. -/
structure Reading where
  /-- `GetTickCount()` -/
  tickCount : Dword
  /-- `clock()`, in milliseconds -/
  clock : Long
  /-- The registry value `DisableTimeout`, zero when it is absent. -/
  disableTimeout : Dword
deriving DecidableEq, Repr

def msecsInSec : Int := 1000

def msecsInMin : Int := msecsInSec * 60

def msecsInHour : Int := msecsInMin * 60

/-! ### Elapsed time -/

/-- `TimeElapsed` -/
structure TimeElapsed where
  start : Long
deriving DecidableEq, Repr

namespace TimeElapsed

/-- `TimeElapsed::Reset` -/
def reset (reading : Reading) : TimeElapsed := ⟨reading.clock⟩

/-- `CLK_TCK`, the ticks of the clock in a second -/
def clkTck : Nat := 1000

/-- The milliseconds of so many ticks: the expression `(long) (ticks / (double)CLK_TCK * 1000)` -/
def ticksToMsecs (ticks : Int) : Int :=
  let msecs :=
    (((Double.ofNat ticks.natAbs).div (Double.ofNat clkTck)).mul (Double.ofNat 1000)).trunc
  if ticks < 0 then -msecs else msecs

/-- `TimeElapsed::Msecs` -/
def msecs (timer : TimeElapsed) (reading : Reading) : Int :=
  ticksToMsecs (reading.clock - timer.start).toInt

/-- No time before the start is shown as time after it. -/
theorem ticksToMsecs_nonpos {ticks : Int} (before : ticks < 0) : ticksToMsecs ticks ≤ 0 := by
  rw [ticksToMsecs, if_pos before]
  omega

theorem ticksToMsecs_nonneg {ticks : Int} (after : 0 ≤ ticks) : 0 ≤ ticksToMsecs ticks := by
  rw [ticksToMsecs, if_neg (not_lt.mpr after)]
  exact Int.natCast_nonneg _

/-- At most one millisecond of the time since the start is not shown. -/
theorem ticksToMsecs_of_nonneg {ticks : Int} (after : 0 ≤ ticks) (small : ticks < 2 ^ 51) :
    ticksToMsecs ticks ≤ ticks ∧ ticks ≤ ticksToMsecs ticks + 1 := by
  have above := @Double.trunc_mul_div_le ticks.natAbs clkTck (by decide) (by omega)
  have below := @Double.le_trunc_mul_div ticks.natAbs clkTck (by decide) (by omega)
  rw [ticksToMsecs, if_neg (not_lt.mpr after)]
  rw [clkTck] at above below ⊢
  omega

/-- At most one millisecond of the time before the start is not shown. -/
theorem ticksToMsecs_of_neg {ticks : Int} (before : ticks < 0) (small : -2 ^ 51 < ticks) :
    ticks ≤ ticksToMsecs ticks ∧ ticksToMsecs ticks ≤ ticks + 1 := by
  have above := @Double.trunc_mul_div_le ticks.natAbs clkTck (by decide) (by omega)
  have below := @Double.le_trunc_mul_div ticks.natAbs clkTck (by decide) (by omega)
  rw [ticksToMsecs, if_pos before]
  rw [clkTck] at above below ⊢
  omega

example : ticksToMsecs 1000 = 1000 ∧ ticksToMsecs 1001 = 1000 ∧ ticksToMsecs 1002 = 1002 := by
  decide

end TimeElapsed

/-- `TimeOut` -/
structure TimeOut where
  timer : TimeElapsed
  msecs : Long
deriving DecidableEq, Repr

namespace TimeOut

/-- `TimeOut(long msecs)` -/
def new (reading : Reading) (msecs : Long) : TimeOut := ⟨TimeElapsed.reset reading, msecs⟩

/-- `TimeOut::SetMsecs` -/
def setMsecs (reading : Reading) (msecs : Long) : TimeOut := ⟨TimeElapsed.reset reading, msecs⟩

/-- `TimeOut::Reset` -/
def reset (reading : Reading) (timeOut : TimeOut) : TimeOut :=
  { timeOut with timer := TimeElapsed.reset reading }

/-- `TimeOut::IsExpired` -/
def isExpired (reading : Reading) (timeOut : TimeOut) : Bool :=
  timeOut.msecs.toInt ≤ timeOut.timer.msecs reading

end TimeOut

/-! ### Unique ids -/

/-- `UniqueId`. The counter wraps with its type; the model counts the draws. -/
structure UniqueId where
  draws : Nat
deriving DecidableEq, Repr

namespace UniqueId

/-- `UniqueId::getNextId` -/
def getNextId (ids : UniqueId) : Long × UniqueId :=
  (BitVec.ofNat 32 (ids.draws + 1), ⟨ids.draws + 1⟩)

/-- The id is one of those drawn so far. -/
def Drawn (ids : UniqueId) (id : Long) : Prop :=
  ∃ draw, 1 ≤ draw ∧ draw ≤ ids.draws ∧ id = BitVec.ofNat 32 draw

theorem Drawn.mono {first second : UniqueId} {id : Long} (drawn : first.Drawn id)
    (more : first.draws ≤ second.draws) : second.Drawn id := by
  obtain ⟨draw, positive, atMost, rfl⟩ := drawn
  exact ⟨draw, positive, atMost.trans more, rfl⟩

theorem drawn_getNextId (ids : UniqueId) : ids.getNextId.2.Drawn ids.getNextId.1 :=
  ⟨ids.draws + 1, by omega, le_refl _, rfl⟩

/-- As long as the counter has not wrapped, a new id is none of those drawn before. -/
theorem getNextId_fresh {ids : UniqueId} {id : Long} (drawn : ids.Drawn id)
    (bound : ids.draws + 1 < 2 ^ 32) : ids.getNextId.1 ≠ id := by
  obtain ⟨draw, positive, atMost, rfl⟩ := drawn
  intro same
  have values := congrArg BitVec.toNat same
  simp only [getNextId, BitVec.toNat_ofNat] at values
  omega

/-- Before the last value of its type is drawn, no id is `-1`. -/
theorem Drawn.ne_minus_one {ids : UniqueId} {id : Long} (drawn : ids.Drawn id)
    (bound : ids.draws < 2 ^ 32 - 1) : id ≠ -1 := by
  obtain ⟨draw, positive, atMost, rfl⟩ := drawn
  intro same
  have values := congrArg BitVec.toNat same
  have minusOne : (-1 : Long).toNat = 2 ^ 32 - 1 := by decide
  rw [minusOne, BitVec.toNat_ofNat] at values
  omega

/-- The ids that the next so many calls of `getNextId` give -/
def nextIds (ids : UniqueId) (count : Nat) : List Long :=
  (List.range' (ids.draws + 1) count).map (BitVec.ofNat 32)

theorem nextIds_succ (ids : UniqueId) (count : Nat) :
    ids.nextIds (count + 1) = ids.getNextId.1 :: ids.getNextId.2.nextIds count := by
  rw [nextIds, List.range'_succ]
  rfl

@[simp] theorem length_nextIds (ids : UniqueId) (count : Nat) :
    (ids.nextIds count).length = count := by
  rw [nextIds, List.length_map, List.length_range']

theorem mem_nextIds {ids : UniqueId} {count : Nat} {id : Long} (member : id ∈ ids.nextIds count) :
    ∃ draw, ids.draws < draw ∧ draw ≤ ids.draws + count ∧ id = BitVec.ofNat 32 draw := by
  obtain ⟨draw, inside, rfl⟩ := List.mem_map.mp member
  rw [List.mem_range'_1] at inside
  exact ⟨draw, by omega, by omega, rfl⟩

/-- As long as the counter has not wrapped, new ids are distinct. -/
theorem nodup_nextIds {ids : UniqueId} {count : Nat} (bound : ids.draws + count < 2 ^ 32) :
    (ids.nextIds count).Nodup := by
  refine List.Nodup.map_on ?_ List.nodup_range'
  intro first left second right same
  rw [List.mem_range'_1] at left right
  have values := congrArg BitVec.toNat same
  simp only [BitVec.toNat_ofNat] at values
  omega

/-- As long as the counter has not wrapped, new ids are none of those drawn before. -/
theorem not_drawn_of_mem_nextIds {ids : UniqueId} {count : Nat} {id : Long}
    (member : id ∈ ids.nextIds count) (bound : ids.draws + count < 2 ^ 32) : ¬ ids.Drawn id := by
  obtain ⟨draw, later, atMost, rfl⟩ := mem_nextIds member
  rintro ⟨earlier, positive, before, same⟩
  have values := congrArg BitVec.toNat same
  simp only [BitVec.toNat_ofNat] at values
  omega

end UniqueId

end JnTapi
