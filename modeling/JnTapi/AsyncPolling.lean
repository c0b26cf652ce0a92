/-
This file models `OnSipXmppBase::AsyncPolling` for every time-out and proves which
time-outs it honours.

The loop checks its time-out before it calls `recv`, and the time-out is a `DWORD`
that becomes a signed `long`. The milliseconds it is compared with come out of doubles.
What the loop finds outside, round by round, is an endless sequence of which a call
uses as many as it goes through.
-/

import JnTapi.OnSipTapi

namespace JnTapi

/-- `INFINITE` -/
def infinite : Dword := 0xFFFFFFFF

/-! ### The loop -/

/-- What one round of the loop finds. -/
structure PollRound where
  /-- At the check of the time-out -/
  now : Reading
  /-- At the check of the timer of `onConnectLoop` -/
  loopTime : Reading
  /-- What `onConnectLoop` returns -/
  goesOn : Bool
  /-- At the reset of the timer -/
  reset : Reading
  /-- What `recv` returns -/
  received : ConnectionError
deriving DecidableEq, Repr

/-- A call of `AsyncPolling` after some rounds -/
structure AsyncPolling where
  /-- `_tmrConnectLoop` -/
  tmrConnectLoop : TimeOut
  /-- How often `recv` has been called -/
  recvs : Nat
  /-- What the call has returned, if it has -/
  result : Option ConnectionError
deriving DecidableEq, Repr

namespace AsyncPolling

/-- `recv` is called, and the loop goes on unless it returns an error. -/
def receive (received : ConnectionError) (polling : AsyncPolling) : AsyncPolling :=
  { polling with
    recvs := polling.recvs + 1
    result := if received = .connNoError then none else some received }

/-- One round of the loop of `OnSipXmppBase::AsyncPolling` -/
def round (timeOut : TimeOut) (found : PollRound) (polling : AsyncPolling) : AsyncPolling :=
  if polling.result.isSome then polling
  else if timeOut.isExpired found.now then { polling with result := some .connNoError }
  else if polling.tmrConnectLoop.isExpired found.loopTime then
    if found.goesOn then
      { polling with tmrConnectLoop := polling.tmrConnectLoop.reset found.reset }.receive
        found.received
    else { polling with result := some .connNoError }
  else polling.receive found.received

end AsyncPolling

/-- `OnSipXmppBase::AsyncPolling` after so many rounds -/
def asyncPolling (dwMsecs : Dword) (start : Reading) (tmrConnectLoop : TimeOut)
    (found : Nat → PollRound) : Nat → AsyncPolling
  | 0 => ⟨tmrConnectLoop, 0, none⟩
  | rounds + 1 =>
    (asyncPolling dwMsecs start tmrConnectLoop found rounds).round (TimeOut.new start dwMsecs)
      (found rounds)

/-- The thread of the login goes through the rounds of its `Poll`: it goes back to its own loop
where a round ends the call without an error, and else on to `recv`. -/
theorem InitCall.step_checkTime_round {call next : InitCall} {timeOut : TimeOut}
    {time loopTime reset : Reading} {readings : StateMachineBase.PollReadings}
    (polls : call.control = .polling timeOut)
    (stepped : call.step (.checkTime time loopTime readings reset) = some next)
    (recvs : Nat) (received : ConnectionError) :
    let after := (⟨call.object.tmrConnectLoop, recvs, none⟩ : AsyncPolling).round timeOut
      ⟨time, loopTime, true, reset, received⟩
    (after.result = some .connNoError ∧ next = InitCall.polled call.object) ∨
      (after.recvs = recvs + 1 ∧ (next.control = .receiving timeOut ∨
        next.control = .pollingCalls timeOut reset)) := by
  rcases InitCall.step_checkTime stepped with ⟨ended, -⟩ | ⟨_, same, found⟩
  · rw [InitCall.result, polls] at ended
    cases ended
  · cases polls.symm.trans same
    rcases found with ⟨expired, rfl⟩ | ⟨goesOn, loops, rfl⟩ | ⟨goesOn, rests, rfl⟩
    · exact Or.inl ⟨by simp [AsyncPolling.round, expired], rfl⟩
    · exact Or.inr ⟨by simp [AsyncPolling.round, AsyncPolling.receive, goesOn, loops], Or.inr rfl⟩
    · exact Or.inr ⟨by simp [AsyncPolling.round, AsyncPolling.receive, goesOn, rests], Or.inl rfl⟩

/-! ### Which time-outs it honours -/

namespace AsyncPolling

/-- The clock shows at every check how much true time has passed since the time-out was set. -/
structure Passing (start : Reading) (found : Nat → PollRound) (elapsed : Nat → Nat) : Prop where
  clock : ∀ rounds, (found rounds).now.clock = start.clock + BitVec.ofNat 32 (elapsed rounds)
  forward : Monotone elapsed

/-- What is promised of a call of `AsyncPolling`: it returns without an error only when its time
has passed and `recv` has been called, never so with `INFINITE`, and it does call `recv`. -/
structure Honours (dwMsecs : Dword) (start : Reading) (tmrConnectLoop : TimeOut)
    (found : Nat → PollRound) (elapsed : Nat → Nat) : Prop where
  onTime : ∀ rounds, (asyncPolling dwMsecs start tmrConnectLoop found rounds).result = none →
    (asyncPolling dwMsecs start tmrConnectLoop found (rounds + 1)).result = some .connNoError →
    dwMsecs.toNat ≤ elapsed rounds ∧
      0 < (asyncPolling dwMsecs start tmrConnectLoop found rounds).recvs
  endless : dwMsecs = infinite → ∀ rounds,
    (asyncPolling dwMsecs start tmrConnectLoop found rounds).result ≠ some .connNoError
  serves : ∃ rounds, 0 < (asyncPolling dwMsecs start tmrConnectLoop found rounds).recvs

section honours

variable {dwMsecs : Dword} {start : Reading} {tmrConnectLoop : TimeOut} {found : Nat → PollRound}
  {elapsed : Nat → Nat}

/-- The time-out of the call is over at the check of a round: as signed numbers, the milliseconds
that the clock shows have reached it. -/
def Expires (dwMsecs : Dword) (elapsed : Nat → Nat) (rounds : Nat) : Prop :=
  dwMsecs.toInt ≤ TimeElapsed.ticksToMsecs (BitVec.ofNat 32 (elapsed rounds)).toInt

theorem Passing.isExpired_iff (passing : Passing start found elapsed) (rounds : Nat) :
    (TimeOut.new start dwMsecs).isExpired (found rounds).now = true ↔
      Expires dwMsecs elapsed rounds := by
  have passed : start.clock + BitVec.ofNat 32 (elapsed rounds) - start.clock =
      BitVec.ofNat 32 (elapsed rounds) := by
    rw [BitVec.add_comm, BitVec.add_sub_cancel]
  rw [TimeOut.isExpired, decide_eq_true_iff, TimeElapsed.msecs, passing.clock]
  show _ ≤ TimeElapsed.ticksToMsecs
    (start.clock + BitVec.ofNat 32 (elapsed rounds) - start.clock).toInt ↔ _
  rw [passed]
  rfl

/-- A round after the time is over ends the call. -/
theorem round_expired (passing : Passing start found elapsed) {rounds : Nat}
    (going : (asyncPolling dwMsecs start tmrConnectLoop found rounds).result = none)
    (expires : Expires dwMsecs elapsed rounds) :
    (asyncPolling dwMsecs start tmrConnectLoop found (rounds + 1)).result = some .connNoError ∧
      (asyncPolling dwMsecs start tmrConnectLoop found (rounds + 1)).recvs =
        (asyncPolling dwMsecs start tmrConnectLoop found rounds).recvs := by
  rw [asyncPolling, AsyncPolling.round, going, if_neg (by decide),
    if_pos ((passing.isExpired_iff rounds).mpr expires)]
  exact ⟨rfl, rfl⟩

/-- A round before calls `recv`, as long as `onConnectLoop` goes on. -/
theorem round_not_expired (passing : Passing start found elapsed)
    (goesOn : ∀ rounds, (found rounds).goesOn = true) {rounds : Nat}
    (going : (asyncPolling dwMsecs start tmrConnectLoop found rounds).result = none)
    (inTime : ¬ Expires dwMsecs elapsed rounds) :
    (asyncPolling dwMsecs start tmrConnectLoop found (rounds + 1)).result =
        (if (found rounds).received = .connNoError then none else some (found rounds).received) ∧
      (asyncPolling dwMsecs start tmrConnectLoop found (rounds + 1)).recvs =
        (asyncPolling dwMsecs start tmrConnectLoop found rounds).recvs + 1 := by
  rw [asyncPolling, AsyncPolling.round, going, if_neg (by decide),
    if_neg ((passing.isExpired_iff rounds).not.mpr inTime), if_pos (goesOn rounds)]
  split_ifs <;> exact ⟨by simp_all [AsyncPolling.receive], rfl⟩

/-- A call that has returned stays so. -/
theorem round_returned {rounds : Nat} {error : ConnectionError}
    (returned : (asyncPolling dwMsecs start tmrConnectLoop found rounds).result = some error) :
    asyncPolling dwMsecs start tmrConnectLoop found (rounds + 1) =
      asyncPolling dwMsecs start tmrConnectLoop found rounds := by
  rw [asyncPolling, AsyncPolling.round, returned, if_pos (by rfl)]

/-- As long as no check has found the time over and `recv` has returned no error, the call goes on
and has called `recv` in every round. -/
theorem going_of_inTime (passing : Passing start found elapsed)
    (goesOn : ∀ rounds, (found rounds).goesOn = true) {rounds : Nat}
    (quiet : ∀ earlier < rounds, (found earlier).received = .connNoError)
    (inTime : ∀ earlier < rounds, ¬ Expires dwMsecs elapsed earlier) :
    (asyncPolling dwMsecs start tmrConnectLoop found rounds).result = none ∧
      (asyncPolling dwMsecs start tmrConnectLoop found rounds).recvs = rounds := by
  induction rounds with
  | zero => exact ⟨rfl, rfl⟩
  | succ rounds inductionHypothesis =>
    obtain ⟨going, recvs⟩ := inductionHypothesis
      (fun earlier before => quiet earlier (before.trans (Nat.lt_succ_self _)))
      (fun earlier before => inTime earlier (before.trans (Nat.lt_succ_self _)))
    obtain ⟨result, more⟩ := round_not_expired passing goesOn going
      (inTime rounds (Nat.lt_succ_self _))
    rw [quiet rounds (Nat.lt_succ_self _), if_pos rfl] at result
    exact ⟨result, by rw [more, recvs]⟩

/-- A call that goes on has found its time over at no check so far, and no error. -/
theorem inTime_of_going (passing : Passing start found elapsed)
    (goesOn : ∀ rounds, (found rounds).goesOn = true) {rounds : Nat}
    (going : (asyncPolling dwMsecs start tmrConnectLoop found rounds).result = none) :
    ∀ earlier < rounds, ¬ Expires dwMsecs elapsed earlier ∧
      (found earlier).received = .connNoError := by
  induction rounds with
  | zero => exact fun earlier before => absurd before (Nat.not_lt_zero earlier)
  | succ rounds inductionHypothesis =>
    have before : (asyncPolling dwMsecs start tmrConnectLoop found rounds).result = none := by
      cases returned : (asyncPolling dwMsecs start tmrConnectLoop found rounds).result with
      | none => rfl
      | some error =>
        rw [round_returned returned, returned] at going
        exact going
    have inTime : ¬ Expires dwMsecs elapsed rounds := fun expires => by
      cases (round_expired passing before expires).1.symm.trans going
    have received := (round_not_expired passing goesOn before inTime).1.symm.trans going
    intro earlier less
    rcases Nat.lt_succ_iff_lt_or_eq.mp less with lower | rfl
    · exact inductionHypothesis before earlier lower
    · exact ⟨inTime, by_contra fun failed => by rw [if_neg failed] at received; cases received⟩

/-- A time-out below half of the range is over only when its time has passed. -/
theorem toNat_le_of_lower {rounds : Nat} (lower : dwMsecs.toNat < 2 ^ 31)
    (expires : Expires dwMsecs elapsed rounds) : dwMsecs.toNat ≤ elapsed rounds := by
  have value : dwMsecs.toInt = dwMsecs.toNat := BitVec.toInt_eq_toNat_of_lt (by omega)
  have bound := (BitVec.ofNat 32 (elapsed rounds)).isLt
  have passed : (BitVec.ofNat 32 (elapsed rounds)).toNat = elapsed rounds % 2 ^ 32 :=
    BitVec.toNat_ofNat _ _
  have ticks := BitVec.toInt_eq_toNat_cond (BitVec.ofNat 32 (elapsed rounds))
  rw [Expires, value] at expires
  rcases lt_or_ge (BitVec.ofNat 32 (elapsed rounds)).toInt 0 with before | after
  · have shown := TimeElapsed.ticksToMsecs_nonpos before
    omega
  · have shown := (TimeElapsed.ticksToMsecs_of_nonneg after (by split_ifs at ticks <;> omega)).1
    split_ifs at ticks <;> omega

/-- A time-out from half of the range on that was not over at the first check is over only when its
time has passed, or in the millisecond before. -/
theorem toNat_le_succ_of_upper {rounds : Nat} (forward : Monotone elapsed)
    (upper : 2 ^ 31 ≤ dwMsecs.toNat) (first : ¬ Expires dwMsecs elapsed 0)
    (expires : Expires dwMsecs elapsed rounds) : dwMsecs.toNat ≤ elapsed rounds + 1 := by
  have range := dwMsecs.isLt
  have value : dwMsecs.toInt = dwMsecs.toNat - 2 ^ 32 := by
    rw [BitVec.toInt_eq_toNat_cond, if_neg (by omega)]
    rfl
  have later : elapsed 0 ≤ elapsed rounds := forward (Nat.zero_le rounds)
  rw [Expires, value] at first expires
  have begins := BitVec.toInt_eq_toNat_cond (BitVec.ofNat 32 (elapsed 0))
  have ends := BitVec.toInt_eq_toNat_cond (BitVec.ofNat 32 (elapsed rounds))
  rw [BitVec.toNat_ofNat] at begins ends
  -- At the first check the clock shows a time before the start, so that half of the range has
  -- passed already.
  have negative : (BitVec.ofNat 32 (elapsed 0)).toInt < 0 := by
    by_contra after
    have shown := TimeElapsed.ticksToMsecs_nonneg (not_lt.mp after)
    omega
  by_contra early
  have stillNegative : (BitVec.ofNat 32 (elapsed rounds)).toInt < 0 := by
    split_ifs at begins ends <;> omega
  have shown := (TimeElapsed.ticksToMsecs_of_neg stillNegative
    (by split_ifs at ends <;> omega)).2
  split_ifs at begins ends <;> omega

/-- A time-out that was not over at the first check is over only when its time has passed, or in the
millisecond before. -/
theorem toNat_le_succ_of_expires {rounds : Nat} (forward : Monotone elapsed)
    (first : ¬ Expires dwMsecs elapsed 0) (expires : Expires dwMsecs elapsed rounds) :
    dwMsecs.toNat ≤ elapsed rounds + 1 := by
  rcases Nat.lt_or_ge dwMsecs.toNat (2 ^ 31) with lower | upper
  · exact (toNat_le_of_lower lower expires).trans (Nat.le_succ _)
  · exact toNat_le_succ_of_upper forward upper first expires

theorem returned_later {rounds later : Nat} {error : ConnectionError}
    (returned : (asyncPolling dwMsecs start tmrConnectLoop found rounds).result = some error)
    (after : rounds ≤ later) :
    asyncPolling dwMsecs start tmrConnectLoop found later =
      asyncPolling dwMsecs start tmrConnectLoop found rounds := by
  induction later, after using Nat.le_induction with
  | base => rfl
  | succ later after inductionHypothesis =>
    rw [← inductionHypothesis] at returned ⊢
    exact round_returned returned

/-- A round in time does not end the call without an error. -/
theorem ne_noError_of_inTime (passing : Passing start found elapsed)
    (goesOn : ∀ rounds, (found rounds).goesOn = true) {rounds : Nat}
    (going : (asyncPolling dwMsecs start tmrConnectLoop found rounds).result = none)
    (inTime : ¬ Expires dwMsecs elapsed rounds) :
    (asyncPolling dwMsecs start tmrConnectLoop found (rounds + 1)).result ≠
      some .connNoError := by
  rw [(round_not_expired passing goesOn going inTime).1]
  split_ifs with quiet
  · exact (Option.some_ne_none _).symm
  · exact fun same => quiet (Option.some.inj same)

/-- The first of the checks that a call reaches and that find the time over ends the call without
an error. -/
theorem exists_first_expires (tmrConnectLoop : TimeOut) (passing : Passing start found elapsed)
    (goesOn : ∀ rounds, (found rounds).goesOn = true) {rounds : Nat}
    (quiet : ∀ earlier < rounds, (found earlier).received = .connNoError)
    (expires : Expires dwMsecs elapsed rounds) :
    ∃ first ≤ rounds, Expires dwMsecs elapsed first ∧
      (asyncPolling dwMsecs start tmrConnectLoop found first).result = none ∧
      (asyncPolling dwMsecs start tmrConnectLoop found (first + 1)).result =
        some .connNoError := by
  induction rounds using Nat.strong_induction_on with
  | h rounds inductionHypothesis =>
    by_cases earlier : ∃ earlier < rounds, Expires dwMsecs elapsed earlier
    · obtain ⟨earlier, before, already⟩ := earlier
      obtain ⟨first, notAfter, found⟩ := inductionHypothesis earlier before
        (fun other less => quiet other (less.trans before)) already
      exact ⟨first, notAfter.trans before.le, found⟩
    · push Not at earlier
      have going : (asyncPolling dwMsecs start tmrConnectLoop found rounds).result = none :=
        (going_of_inTime passing goesOn quiet earlier).1
      exact ⟨rounds, le_refl _, expires, going, (round_expired passing going expires).1⟩

/-- A call keeps its promise just when the first check does not find the time over and no check that
it may reach finds it over with `INFINITE` or in the last millisecond. -/
theorem honours_iff (passing : Passing start found elapsed)
    (goesOn : ∀ rounds, (found rounds).goesOn = true) :
    Honours dwMsecs start tmrConnectLoop found elapsed ↔
      ¬ Expires dwMsecs elapsed 0 ∧
        ∀ rounds, (∀ earlier < rounds, (found earlier).received = .connNoError) →
          Expires dwMsecs elapsed rounds →
          dwMsecs ≠ infinite ∧ elapsed rounds + 1 ≠ dwMsecs.toNat := by
  constructor
  · intro honours
    refine ⟨fun expires => ?_, fun rounds quiet expires => ?_⟩
    · obtain ⟨rounds, served⟩ := honours.serves
      have nothing : (asyncPolling dwMsecs start tmrConnectLoop found 0).result = none := rfl
      obtain ⟨returned, none⟩ := round_expired passing nothing expires
      cases rounds with
      | zero => exact absurd served (Nat.lt_irrefl 0)
      | succ rounds =>
        rw [returned_later returned (Nat.succ_le_succ (Nat.zero_le rounds)), none] at served
        exact absurd served (Nat.lt_irrefl 0)
    · obtain ⟨first, notAfter, -, going, returned⟩ :=
        exists_first_expires tmrConnectLoop passing goesOn quiet expires
      refine ⟨fun isInfinite => honours.endless isInfinite _ returned, fun last => ?_⟩
      have passed := (honours.onTime first going returned).1
      have later := passing.forward notAfter
      omega
  · rintro ⟨first, timely⟩
    refine ⟨fun rounds going returned => ?_, fun isInfinite rounds => ?_, 1, ?_⟩
    · have expires : Expires dwMsecs elapsed rounds :=
        by_contra fun inTime => ne_noError_of_inTime passing goesOn going inTime returned
      have before := inTime_of_going passing goesOn going
      have quiet := fun earlier less => (before earlier less).2
      refine ⟨?_, ?_⟩
      · have almost := toNat_le_succ_of_expires passing.forward first expires
        have notLast := (timely rounds quiet expires).2
        omega
      · rw [(going_of_inTime passing goesOn quiet fun earlier less => (before earlier less).1).2]
        exact Nat.pos_of_ne_zero fun zero => first (zero ▸ expires)
    · induction rounds with
      | zero => exact (Option.some_ne_none _).symm
      | succ rounds inductionHypothesis =>
        cases returned : (asyncPolling dwMsecs start tmrConnectLoop found rounds).result with
        | none =>
          have before := inTime_of_going passing goesOn returned
          exact ne_noError_of_inTime passing goesOn returned fun expires =>
            (timely rounds (fun earlier less => (before earlier less).2) expires).1 isInfinite
        | some error =>
          rw [round_returned returned]
          exact inductionHypothesis
    · have nothing : (asyncPolling dwMsecs start tmrConnectLoop found 0).result = none := rfl
      rw [(round_not_expired passing goesOn nothing first).2]
      exact Nat.succ_pos _

/-- Where the first check comes within half of the range of the clock, it finds the time over unless
the time-out is in the lower half of its range and more than the milliseconds shown. -/
theorem not_expires_iff (soon : elapsed 0 < 2 ^ 31) :
    ¬ Expires dwMsecs elapsed 0 ↔
      dwMsecs.toNat < 2 ^ 31 ∧ TimeElapsed.ticksToMsecs (elapsed 0) < dwMsecs.toNat := by
  have bound := dwMsecs.isLt
  have ticks : (BitVec.ofNat 32 (elapsed 0)).toInt = elapsed 0 := by
    rw [BitVec.toInt_eq_toNat_cond, BitVec.toNat_ofNat, Nat.mod_eq_of_lt (by omega),
      if_pos (by omega)]
  have shown : 0 ≤ TimeElapsed.ticksToMsecs (elapsed 0) :=
    TimeElapsed.ticksToMsecs_nonneg (Int.natCast_nonneg _)
  rw [Expires, ticks, BitVec.toInt_eq_toNat_cond]
  split_ifs <;> omega

end honours

end AsyncPolling

/-! ### Two calls -/

namespace Example

/-- Rounds of a hundred milliseconds, which begin with the process and bring nothing -/
def quietRound (rounds : Nat) : PollRound :=
  let reading : Reading := ⟨0, BitVec.ofNat 32 (100 * rounds), 0⟩
  ⟨reading, reading, true, reading, .connNoError⟩

/-- The first reading, when the time-out is set -/
def atStart : Reading := ⟨0, 0, 0⟩

theorem quietRound_passing : AsyncPolling.Passing atStart quietRound (100 * ·) := by
  refine ⟨fun rounds => ?_, fun first second less => Nat.mul_le_mul_left 100 less⟩
  exact (BitVec.zero_add _).symm

end Example

namespace AsyncPolling

/-- A call with a second to go keeps its promise. -/
theorem honours_second :
    Honours 1000 Example.atStart (TimeOut.new Example.atStart 250) Example.quietRound (100 * ·) := by
  refine (honours_iff Example.quietRound_passing fun _ => rfl).mpr ⟨?_, fun rounds _ _ => ?_⟩
  · exact (not_expires_iff (by decide)).mpr (by decide)
  · refine ⟨by decide, ?_⟩
    show 100 * rounds + 1 ≠ 1000
    omega

/-- A call with `INFINITE` returns at its first check, without having called `recv`. -/
theorem not_honours_infinite :
    ¬ Honours infinite Example.atStart (TimeOut.new Example.atStart 250) Example.quietRound
      (100 * ·) := by
  intro honours
  exact honours.endless rfl 1 rfl

end AsyncPolling

end JnTapi
