/-
This file models `COnSipLine::OnDial` and proves when a request that waits fails by
its time-out.

The three handlers of requests add the limit to the tick at which the request began to
wait and compare the sum with the tick count, both as unsigned numbers. The sum and
the tick count wrap at different times.
-/

import JnTapi.Library.Ticks
import JnTapi.Tapi.DropCall

namespace JnTapi

open Library

/-! ### Dialling on a call that is there -/

/-- `RTDial` with its call appearance -/
structure DialRequest where
  call : CallAppearance
  state : RequestState
  /-- `m_dwStateTime` -/
  stateTime : Dword
  completion : Option Completion
deriving DecidableEq, Repr

namespace DialRequest

/-- A request that TSP++ dispatches for the first time -/
def new (call : CallAppearance) : DialRequest := ⟨call, .initial, 0, none⟩

/-- `CTSPIRequest::SetState` -/
def setState (tickCount : Dword) (state : RequestState) (request : DialRequest) : DialRequest :=
  { request with state := state, stateTime := tickCount }

/-- `CTSPIConnection::CompleteRequest` with the removal of the request -/
def completeRequest (completion : Completion) (request : DialRequest) : DialRequest :=
  if request.state = .completed then request
  else { request with state := .completed, completion := some completion }

/-- The end of `OnDial`: a request that has waited too long fails. -/
def checkTime (tickCount : Dword) (request : DialRequest) : DialRequest :=
  if request.state = .waiting ∧ request.stateTime + requestTimeout < tickCount then
    request.completeRequest .timedOut
  else request

/-- `COnSipLine::OnDial`: whether it has taken the event. The first tick count is the one at which
the request begins to wait, the other the one of the check. -/
def onDial (hasEvent : Bool) (entered tickCount : Dword) (request : DialRequest) :
    Bool × DialRequest :=
  match request.state with
  | .initial => (false, (request.setState entered .waiting).checkTime tickCount)
  | .waiting =>
    if hasEvent then
      let call := request.call.setCallState .dialtone
      let call := (call.setCallState .dialing).setCallState .proceeding
      (true, { request.completeRequest .succeeded with call := call })
    else (false, request.checkTime tickCount)
  | _ => (false, request)

/-- The request has failed by its time-out. -/
def TimedOut (request : DialRequest) : Prop :=
  request.state = .completed ∧ request.completion = some .timedOut

instance (request : DialRequest) : Decidable request.TimedOut :=
  inferInstanceAs (Decidable (_ ∧ _))

theorem timedOut_checkTime {request : DialRequest} (waits : request.state = .waiting)
    (tickCount : Dword) :
    (request.checkTime tickCount).TimedOut ↔ request.stateTime + requestTimeout < tickCount := by
  unfold checkTime
  split_ifs with late
  · have going : ¬ request.state = .completed := by
      rw [waits]
      decide
    rw [completeRequest, if_neg going]
    exact iff_of_true ⟨rfl, rfl⟩ late.2
  · rw [TimedOut, waits]
    exact iff_of_false (fun timedOut => nomatch timedOut.1) fun after => late ⟨waits, after⟩

end DialRequest

namespace MakeCallRequest

variable {request : MakeCallRequest} {event : Option CallNotification}

/-- The request has failed by its time-out. -/
def TimedOut (request : MakeCallRequest) : Prop :=
  request.state = .completed ∧ request.completion = some .timedOut

instance (request : MakeCallRequest) : Decidable request.TimedOut :=
  inferInstanceAs (Decidable (_ ∧ _))

theorem timedOut_onMakeCall (waits : request.state = .waiting)
    (other : request.ownEvent event = false) (tickCount : Dword) :
    (request.onMakeCall event tickCount).TimedOut ↔
      request.stateTime + requestTimeout < tickCount := by
  have notOwn : ¬ request.ownEvent event = true := Bool.eq_false_iff.mp other
  have late : request.timesOut event tickCount = true ↔
      request.stateTime + requestTimeout < tickCount :=
    decide_eq_true_iff.trans ⟨fun after => after.2.2, fun after => ⟨waits, notOwn, after⟩⟩
  rw [onMakeCall, waits]
  dsimp only
  rw [if_neg notOwn, ← late]
  split_ifs with after
  · have going : ¬ request.state = .completed := by
      rw [waits]
      decide
    rw [completeRequest, if_neg going]
    exact iff_of_true ⟨rfl, rfl⟩ after
  · rw [TimedOut, waits]
    exact iff_of_false (fun timedOut => nomatch timedOut.1) after

end MakeCallRequest

namespace DropCallRequest

variable {request : DropCallRequest} {event : Option CallNotification}

/-- The request has failed by its time-out. -/
def TimedOut (request : DropCallRequest) : Prop :=
  request.state = .completed ∧ request.completion = some .timedOut

instance (request : DropCallRequest) : Decidable request.TimedOut :=
  inferInstanceAs (Decidable (_ ∧ _))

theorem timedOut_onDropCall (waits : request.state = .waiting)
    (other : request.ownEvent event = false) (tickCount : Dword) :
    (request.onDropCall event tickCount).2.TimedOut ↔
      request.stateTime + requestTimeout < tickCount := by
  rw [onDropCall, waits]
  dsimp only
  rw [if_neg (by rw [other]; exact Bool.false_ne_true)]
  split_ifs with late
  · have going : ¬ request.state = .completed := by
      rw [waits]
      decide
    rw [completeRequest, if_neg going]
    exact iff_of_true ⟨rfl, rfl⟩ late
  · rw [TimedOut, waits]
    exact iff_of_false (fun timedOut => RequestState.noConfusion timedOut.1) late

end DropCallRequest

/-! ### The time-out of a request that waits -/

/-- The limit and the time since a tick, added to the tick, have both wrapped, or neither has. -/
def WrapTogether (start : Dword) (elapsed : Nat) : Prop :=
  start.toNat + requestTimeout.toNat < 2 ^ 32 ↔ start.toNat + elapsed < 2 ^ 32

/-- The check of all three handlers, at a time after the tick at which a request began to wait -/
theorem late_iff {start : Dword} {elapsed : Nat} (small : elapsed < 2 ^ 31) :
    (start + requestTimeout < start + BitVec.ofNat 32 elapsed ↔
        requestTimeout.toNat < elapsed) ↔
      WrapTogether start elapsed :=
  add_lt_add_iff_of_wrap requestTimeout.isLt (by omega) start

/-- A request that has begun to wait at a tick is failed by the check just when its time is over,
in each of the three handlers, as long as the limit and the time wrap together. -/
theorem fails_on_time_iff (start : Dword) (elapsed : Nat) (small : elapsed < 2 ^ 31) :
    (∀ (request : MakeCallRequest) event, request.state = .waiting → request.stateTime = start →
      request.ownEvent event = false →
      (((request.onMakeCall event (start + BitVec.ofNat 32 elapsed)).TimedOut ↔
        requestTimeout.toNat < elapsed) ↔ WrapTogether start elapsed)) ∧
    (∀ (request : DropCallRequest) event, request.state = .waiting → request.stateTime = start →
      request.ownEvent event = false →
      (((request.onDropCall event (start + BitVec.ofNat 32 elapsed)).2.TimedOut ↔
        requestTimeout.toNat < elapsed) ↔ WrapTogether start elapsed)) ∧
    (∀ (request : DialRequest) entered, request.state = .waiting → request.stateTime = start →
      (((request.onDial false entered (start + BitVec.ofNat 32 elapsed)).2.TimedOut ↔
        requestTimeout.toNat < elapsed) ↔ WrapTogether start elapsed)) ∧
    ∀ (request : DialRequest) hasEvent, request.state = .initial →
      (((request.onDial hasEvent start (start + BitVec.ofNat 32 elapsed)).2.TimedOut ↔
        requestTimeout.toNat < elapsed) ↔ WrapTogether start elapsed) := by
  refine ⟨fun request event waits entered other => ?_, fun request event waits entered other => ?_,
    fun request entered waits since => ?_, fun request hasEvent initial => ?_⟩
  · rw [MakeCallRequest.timedOut_onMakeCall waits other, entered]
    exact late_iff small
  · rw [DropCallRequest.timedOut_onDropCall waits other, entered]
    exact late_iff small
  · rw [DialRequest.onDial, waits]
    dsimp only
    rw [if_neg Bool.false_ne_true, DialRequest.timedOut_checkTime waits, since]
    exact late_iff small
  · rw [DialRequest.onDial, initial]
    dsimp only
    rw [DialRequest.timedOut_checkTime rfl]
    exact late_iff small

namespace Example

/-- Requests that have begun to wait at a tick -/
def makingSince (start : Dword) : MakeCallRequest :=
  (MakeCallRequest.new "5550100".toList).setState start .waiting

def droppingSince (start : Dword) : DropCallRequest := (DropCallRequest.new 1).setState start .waiting

def diallingSince (start : Dword) : DialRequest :=
  (DialRequest.new (CallAppearance.new 0)).setState start .waiting

end Example

/-- Ten seconds and a bit after the tick zero all three requests have failed. -/
theorem fails_on_time_tenSeconds :
    ((Example.makingSince 0).onMakeCall none 10001).TimedOut ∧
    ((Example.droppingSince 0).onDropCall none 10001).2.TimedOut ∧
    ((Example.diallingSince 0).onDial false 0 10001).2.TimedOut := by
  have together : WrapTogether 0 10001 := iff_of_true (by decide) (by decide)
  obtain ⟨making, dropping, dialling, -⟩ := fails_on_time_iff 0 10001 (by decide)
  exact ⟨((making (Example.makingSince 0) none rfl rfl rfl).mpr together).mpr (by decide),
    ((dropping (Example.droppingSince 0) none rfl rfl rfl).mpr together).mpr (by decide),
    ((dialling (Example.diallingSince 0) 0 rfl rfl).mpr together).mpr (by decide)⟩

/-- Shortly before the tick count wraps a request fails as soon as it waits, and one that has
waited for eleven seconds afterwards does not. -/
theorem not_fails_on_time_wrap :
    ¬ (((Example.makingSince 0xFFFFFFFF).onMakeCall none 0xFFFFFFFF).TimedOut ↔
      requestTimeout.toNat < 0) ∧
    ¬ (((Example.droppingSince 0xFFFFFFFF).onDropCall none 0xFFFFFFFF).2.TimedOut ↔
      requestTimeout.toNat < 0) ∧
    ¬ (((Example.diallingSince 0xFFFFFFFF).onDial false 0 0xFFFFFFFF).2.TimedOut ↔
      requestTimeout.toNat < 0) ∧
    ¬ (((Example.makingSince 0xFFFFD800).onMakeCall none (0xFFFFD800 + 11000)).TimedOut ↔
      requestTimeout.toNat < 11000) := by
  decide

end JnTapi
