/-
This file models `OnSipThread`, which runs an `OnSipXmpp` object in a thread of its own
and passes the calls of other threads on to it, and proves when nothing is asked of the
object any more once the thread has ended.

`MakeCall` and `DropCall` are guarded by the flag of the thread, which is read at once,
and by the pointer to the object, which is read under a lock. The flag is set before
`Run` and cleared by `Join`; the pointer is cleared at the end of `Run`, but not where
`Run` returns because it could not connect.
-/

import JnTapi.ConnectionThread

namespace JnTapi

open Library

/-! ### The polling of the object -/

/-- One step of `OnSipXmpp::PollXMPP` -/
inductive PollAction
  /-- A step of the poll of the calls -/
  | call (action : CallAction)
  | arrive (arrival : Arrival)
  /-- `AsyncPolling` checks its time-out and the timer of `onConnectLoop`. -/
  | checkTime (time loopTime : Reading) (readings : StateMachineBase.PollReadings) (reset : Reading)
  /-- `m_gloox->recv` returns. -/
  | received (error : ConnectionError)

/-- Where `PollXMPP` stands after a step: still inside, or it has returned. -/
inductive PollOutcome
  | inside (control : PollControl)
  | returned (ce : ConnectionError)
deriving DecidableEq, Repr

/-- One step of `OnSipXmpp::PollXMPP` -/
def PollControl.step (object : OnSipXmpp) (control : PollControl) :
    PollAction → Option (PollOutcome × OnSipXmpp)
  | .call action =>
    match control with
    | .pollingCalls timeOut reset =>
      if InitCall.otherThread action then none
      else
        (object.step (.call action)).map fun next =>
          match action with
          | .pollHandlers _ => (.inside (.receiving timeOut), next.resetConnectLoop reset)
          | _ => (.inside control, next)
    | _ => none
  | .arrive arrival =>
    match control with
    | .receiving _ => some (.inside control, object.arrive arrival)
    | _ => none
  | .checkTime time loopTime readings reset =>
    match control with
    | .polling timeOut =>
      if timeOut.isExpired time then some (.returned .connNoError, object)
      else if object.tmrConnectLoop.isExpired loopTime then
        some (.inside (.pollingCalls timeOut reset), object.pollInit readings)
      else some (.inside (.receiving timeOut), object)
    | _ => none
  | .received error =>
    match control with
    | .receiving timeOut =>
      if error = .connNoError then some (.inside (.polling timeOut), object)
      else some (.returned error, object)
    | _ => none

/-- The calls whose handlers wait in the queue of the call machine -/
def OnSipXmpp.requested (object : OnSipXmpp) : List Long :=
  object.calls.machine.handlerRequests.map fun handler => handler.stateData.callId

/-! ### The thread -/

/-- The loop of `Run` that polls -/
inductive RunLoop
  | running
  /-- The wait for the shutdown with its time-out -/
  | shutdown (timeout : TimeOut)
deriving DecidableEq, Repr

/-- Where the thread stands. -/
inductive RunControl
  /-- The thread is created, and not resumed yet. -/
  | suspended
  /-- At the creation of the object -/
  | entered
  /-- At `m_xmpp->Start` -/
  | created
  /-- In the connect of `OnSipXmppBase::Start` -/
  | connecting
  /-- At the head of the loop -/
  | looping (ce : ConnectionError)
  | polling (loop : RunLoop) (control : PollControl)
  /-- After the loop -/
  | left (ce : ConnectionError)
  /-- At the head of the loop that waits for the shutdown -/
  | shutting (timeout : TimeOut) (ce : ConnectionError)
  /-- In the `AsyncCleanup` of `m_xmpp->Cleanup` -/
  | cleaning
  /-- At the deletion of the object -/
  | deleting
  | returned
deriving DecidableEq, Repr

/-- The object exists. -/
def RunControl.hasObject : RunControl → Bool
  | .suspended | .entered | .returned => false
  | _ => true

/-- `Run` does not poll any more. -/
def RunControl.pastPolls : RunControl → Bool
  | .cleaning | .deleting | .returned => true
  | _ => false

/-- `OnSipThread` -/
structure OnSipThread where
  control : RunControl
  /-- `m_bInThread` -/
  inThread : Bool
  /-- `m_bStopThread` -/
  stopThread : Bool
  /-- `m_xmpp` -/
  xmpp : Option OnSipXmpp
  loginInfo : LoginInfo
  /-- The calls of `MakeCall` that have found the flag set and not asked for the lock yet -/
  calling : List TString
  /-- The calls of `DropCall` that have found the flag set and not asked for the lock yet -/
  dropping : List Long
  /-- The ids that `MakeCall` has got from the object, in order -/
  made : List Long
  /-- The ids of the calls that the machine has taken from its queue, in order -/
  polled : List Long
deriving DecidableEq, Repr

/-- One step of the thread, or of another thread. -/
inductive RunAction
  /-- `Start` -/
  | resume
  /-- `m_xmpp` is created. -/
  | create (reading : Reading)
  | start (reading : Reading)
  /-- `m_gloox->connect` returns. -/
  | connected (success : Bool)
  /-- Something arrives while gloox connects or disconnects. -/
  | arrive (arrival : Arrival)
  /-- The condition of the loop is evaluated. -/
  | checkLoop (reading : Reading)
  | poll (action : PollAction)
  /-- The stop flag is looked at after the loop. -/
  | checkStop (reading : Reading)
  /-- The condition of the loop that waits for the shutdown is evaluated. -/
  | checkShutdown (time reading : Reading)
  /-- `m_gloox->disconnect` returns. -/
  | disconnected
  | delete
  /-- `SignalStop` -/
  | signalStop
  /-- `Join` finds that the thread has ended. -/
  | join
  /-- `MakeCall` looks at the flag. -/
  | makeCall (number : TString)
  /-- `MakeCall` gets the lock and looks at the pointer; the call draws its id. -/
  | makeCallLocked (index : Nat)
  /-- The object adds the handler, and `MakeCall` returns. -/
  | makeCallReturns (reading : Reading)
  /-- `DropCall` looks at the flag. -/
  | dropCall (callId : Long)
  /-- `DropCall` gets the lock and looks at the pointer. -/
  | dropCallLocked (index : Nat)

namespace OnSipThread

/-- `OnSipThread()` -/
def new (loginInfo : LoginInfo) : OnSipThread :=
  ⟨.suspended, false, false, none, loginInfo, [], [], [], []⟩

/-- No call of `MakeCall` is inside of the lock. -/
def unlocked (thread : OnSipThread) : Bool :=
  thread.xmpp.all fun object => object.calls.making.isEmpty

/-- `PollXMPP` begins. -/
def pollXmpp (loop : RunLoop) (reading : Reading) (thread : OnSipThread) : OnSipThread :=
  { thread with control := .polling loop (.polling (TimeOut.new reading 1000)) }

/-- `Cleanup`, up to `AsyncCleanup` -/
def cleanup (thread : OnSipThread) : OnSipThread :=
  { thread with control := .cleaning, xmpp := thread.xmpp.map OnSipXmpp.cleanup }

/-- The thread after a step of `PollXMPP` -/
def afterPoll (loop : RunLoop) (outcome : PollOutcome) (thread : OnSipThread) : OnSipThread :=
  match outcome with
  | .inside control => { thread with control := .polling loop control }
  | .returned ce =>
    match loop with
    | .running => { thread with control := .looping ce }
    | .shutdown timeout => { thread with control := .shutting timeout ce }

/-- The ids of the calls that a step of `PollXMPP` takes from the queue -/
def taken (object : OnSipXmpp) : PollAction → List Long
  | .call .takeRequests => object.requested
  | _ => []

/-- One step of the thread or of another one; `none` when none stands where the step begins. -/
def step (thread : OnSipThread) : RunAction → Option OnSipThread
  | .resume =>
    match thread.control with
    | .suspended => some { thread with control := .entered, inThread := true }
    | _ => none
  | .create reading =>
    match thread.control with
    | .entered => some { thread with control := .created, xmpp := some (OnSipXmpp.new reading) }
    | _ => none
  | .start reading =>
    match thread.control with
    | .created => some { thread with
        control := .connecting
        xmpp := thread.xmpp.map (OnSipXmpp.start reading thread.loginInfo) }
    | _ => none
  | .connected success =>
    match thread.control with
    | .connecting =>
      let ce := InitCall.startResult success
      if ce = .connNoError then some { thread with control := .looping ce }
      else some { thread with control := .returned }
    | _ => none
  | .arrive arrival =>
    match thread.control with
    | .connecting | .cleaning =>
      some { thread with xmpp := thread.xmpp.map (OnSipXmpp.arrive arrival) }
    | _ => none
  | .checkLoop reading =>
    match thread.control with
    | .looping ce =>
      if ce = .connNoError ∧ ¬ thread.stopThread then some (thread.pollXmpp .running reading)
      else some { thread with control := .left ce }
    | _ => none
  | .poll action =>
    match thread.control, thread.xmpp with
    | .polling loop control, some object =>
      (control.step object action).map fun (outcome, next) =>
        { thread.afterPoll loop outcome with
          xmpp := some next, polled := thread.polled ++ taken object action }
    | _, _ => none
  | .checkStop reading =>
    match thread.control with
    | .left ce =>
      if thread.stopThread then
        some { thread with
          control := .shutting (TimeOut.new reading 5000) ce
          xmpp := thread.xmpp.map OnSipXmpp.asyncShutdown }
      else some thread.cleanup
    | _ => none
  | .checkShutdown time reading =>
    match thread.control with
    | .shutting timeout ce =>
      if ce = .connNoError ∧
          ¬ thread.xmpp.all (fun object => object.initStateMachine.stateHandlers.isEmpty) ∧
          ¬ timeout.isExpired time then
        some (thread.pollXmpp (.shutdown timeout) reading)
      else some thread.cleanup
    | _ => none
  | .disconnected =>
    match thread.control with
    | .cleaning => some { thread with control := .deleting }
    | _ => none
  | .delete =>
    match thread.control with
    | .deleting =>
      if thread.unlocked then some { thread with control := .returned, xmpp := none } else none
    | _ => none
  | .signalStop => some { thread with stopThread := true }
  | .join =>
    match thread.control with
    | .returned => some { thread with inThread := false }
    | _ => none
  | .makeCall number =>
    if thread.inThread then some { thread with calling := thread.calling ++ [number] }
    else some thread
  | .makeCallLocked index =>
    match thread.calling[index]? with
    | some number =>
      if thread.unlocked then
        match thread.xmpp with
        | some object =>
          (object.step (.call (.drawCallId number))).map fun next =>
            { thread with calling := thread.calling.eraseIdx index, xmpp := some next }
        | none => some { thread with calling := thread.calling.eraseIdx index }
      else none
    | none => none
  | .makeCallReturns reading =>
    match thread.xmpp with
    | some object =>
      match object.calls.making with
      | (callId, _) :: _ =>
        (object.step (.call (.addCallHandler 0 reading))).map fun next =>
          { thread with xmpp := some next, made := thread.made ++ [callId] }
      | [] => none
    | none => none
  | .dropCall callId =>
    if thread.inThread then some { thread with dropping := thread.dropping ++ [callId] }
    else some thread
  | .dropCallLocked index =>
    match thread.dropping[index]? with
    | some callId =>
      if thread.unlocked then
        match thread.xmpp with
        | some object =>
          (object.step (.call (.dropCallAsync callId))).map fun next =>
            { thread with dropping := thread.dropping.eraseIdx index, xmpp := some next }
        | none => some { thread with dropping := thread.dropping.eraseIdx index }
      else none
    | none => none

/-! ### What the other threads get -/

/-- What a call of `MakeCall` returns in the step -/
def makeCallResult (thread : OnSipThread) : RunAction → Option Long
  | .makeCall _ => if thread.inThread then none else some 0
  | .makeCallLocked _ => if thread.xmpp.isSome then none else some 0
  | .makeCallReturns _ =>
    (thread.xmpp.bind fun object => object.calls.making.head?).map Prod.fst
  | _ => none

/-- A call of `DropCall` queues an event in the step. -/
def queuesDrop (thread : OnSipThread) : RunAction → Bool
  | .dropCallLocked _ => thread.xmpp.isSome
  | _ => false

/-- The calls whose handlers wait in the queue of the machine -/
def waiting (thread : OnSipThread) : List Long := (thread.xmpp.map OnSipXmpp.requested).getD []

end OnSipThread

/-! ### What the steps do to the queue -/

namespace OnSipXmpp

variable {object next : OnSipXmpp}

@[simp] theorem requested_signalCalls (readings : Readings) (event : XmppEvent)
    (object : OnSipXmpp) : (object.signalCalls readings event).requested = object.requested := by
  unfold signalCalls
  split <;> rfl

@[simp] theorem requested_arrive (arrival : Arrival) (object : OnSipXmpp) :
    (object.arrive arrival).requested = object.requested := by
  cases arrival with
  | event initReadings callReadings event =>
    rcases object.signalEvent_cases initReadings callReadings
      { event with context := object.loginContext + event.context } with ⟨-, same⟩ | ⟨-, same⟩
    · rw [arrive, same]
      rfl
    · rw [arrive, same, requested_signalCalls]
      rfl
  | workerReply index event => rfl
  | workerMessage event => rfl

/-- The id of the call whose handler a step of the calls adds to the queue -/
def added (object : OnSipXmpp) : CallAction → List Long
  | .addCallHandler index _ => (object.calls.making[index]?.map Prod.fst).toList
  | _ => []

/-- A step of the calls takes the queue, or adds to it the handler of a call. -/
theorem requested_step_call {action : CallAction} (stepped : object.step (.call action) = some next) :
    OnSipThread.taken object (.call action) ++ next.requested =
      object.requested ++ object.added action := by
  obtain ⟨allowed, calls, called, rfl⟩ := step_call.mp stepped
  cases action with
  | drawId | signalEvent | removeStateHandlers => cases allowed
  | drawCallId | dropCallAsync | addEvent =>
    obtain rfl := Option.some.inj called
    exact (List.append_nil _).symm
  | addCallHandler index reading =>
    obtain ⟨callId, phoneNumber, found, rfl⟩ := CallSystem.step_addCallHandler.mp called
    rw [added, found]
    exact List.map_append
  | testRequests =>
    obtain ⟨-, rfl⟩ := CallSystem.step_testRequests.mp called
    exact (List.append_nil _).symm
  | takeRequests =>
    obtain ⟨-, rfl⟩ := CallSystem.step_takeRequests.mp called
    rfl
  | handleRequest readings =>
    obtain ⟨request, rest, -, rfl⟩ := CallSystem.step_handleRequest.mp called
    exact (List.append_nil _).symm
  | testEvents =>
    obtain ⟨-, rfl⟩ := CallSystem.step_testEvents.mp called
    exact (List.append_nil _).symm
  | takeEvents =>
    obtain ⟨-, rfl⟩ := CallSystem.step_takeEvents.mp called
    exact (List.append_nil _).symm
  | signalNext readings =>
    obtain ⟨event, rest, -, rfl⟩ := CallSystem.step_signalNext.mp called
    exact (List.append_nil _).symm
  | pollHandlers readings =>
    obtain ⟨-, rfl⟩ := CallSystem.step_pollHandlers.mp called
    exact (List.append_nil _).symm

end OnSipXmpp

/-- A step of `PollXMPP` takes the queue or leaves it. -/
theorem PollControl.requested_step {object next : OnSipXmpp} {control : PollControl}
    {action : PollAction} {outcome : PollOutcome}
    (stepped : control.step object action = some (outcome, next)) :
    OnSipThread.taken object action ++ next.requested = object.requested := by
  cases action with
  | call action =>
    cases control with
    | pollingCalls timeOut reset =>
      rw [step] at stepped
      split_ifs at stepped with other
      obtain ⟨inside, called, same⟩ := Option.map_eq_some_iff.mp stepped
      have waits := OnSipXmpp.requested_step_call called
      cases action with
      | drawCallId | addCallHandler | dropCallAsync => exact absurd rfl other
      | _ =>
        cases same
        exact waits.trans (List.append_nil _)
    | _ => cases stepped
  | arrive arrival =>
    cases control with
    | receiving timeOut =>
      cases stepped
      exact object.requested_arrive arrival
    | _ => cases stepped
  | checkTime time loopTime readings reset =>
    cases control with
    | polling timeOut =>
      rw [step] at stepped
      split_ifs at stepped <;> cases stepped <;> rfl
    | _ => cases stepped
  | received error =>
    cases control with
    | receiving timeOut =>
      rw [step] at stepped
      split_ifs at stepped <;> cases stepped <;> rfl
    | _ => cases stepped

/-! ### After the end of the thread -/

namespace OnSipThread

variable {thread next : OnSipThread}

/-- What is promised of the calls of other threads: once `Run` has returned, `MakeCall` returns zero
and `DropCall` queues nothing, and no call of `MakeCall` has got an id for a request that is not
polled any more. -/
structure KeepsPromise (thread : OnSipThread) : Prop where
  refuses : thread.control = .returned → ∀ action next, thread.step action = some next →
    (∀ callId ∈ thread.makeCallResult action, callId = 0) ∧ thread.queuesDrop action = false
  polled : thread.control.pastPolls = true → thread.made = thread.polled

/-- The steps that leave the thread able to keep its promise: it connects, it polls until no call
waits any more, and no call is added after its last poll. -/
def Meets (thread : OnSipThread) (action : RunAction) : Prop :=
  match action with
  | .connected success => success = true
  | .makeCallReturns _ => thread.control.pastPolls = false
  | .checkStop _ | .checkShutdown _ _ =>
    (thread.step action).any (fun next => next.control.pastPolls) = true → thread.waiting = []
  | _ => True

instance (thread : OnSipThread) : (action : RunAction) → Decidable (thread.Meets action)
  | .connected success => inferInstanceAs (Decidable (success = true))
  | .makeCallReturns _ => inferInstanceAs (Decidable (thread.control.pastPolls = false))
  | .checkStop _ | .checkShutdown _ _ => inferInstanceAs (Decidable (_ = true → thread.waiting = []))
  | .resume | .create _ | .start _ | .arrive _ | .checkLoop _ | .poll _ | .disconnected | .delete
  | .signalStop | .join | .makeCall _ | .makeCallLocked _ | .dropCall _ | .dropCallLocked _ =>
    inferInstanceAs (Decidable True)

/-- What holds in every state of such a run. -/
structure Ledger (thread : OnSipThread) : Prop where
  pointer : thread.xmpp.isSome = thread.control.hasObject
  made : thread.made = thread.polled ++ thread.waiting
  past : thread.control.pastPolls = true → thread.waiting = []

theorem Ledger.keepsPromise (ledger : thread.Ledger) : thread.KeepsPromise := by
  refine ⟨fun returned action next stepped => ?_, fun past => ?_⟩
  · have gone : thread.xmpp = none := by
      have pointer := ledger.pointer
      rw [returned] at pointer
      exact Option.isSome_eq_false_iff.mp pointer |> Option.isNone_iff_eq_none.mp
    refine ⟨fun callId result => ?_, ?_⟩
    · cases action with
      | makeCall number =>
        rw [makeCallResult] at result
        split_ifs at result with inThread
        · cases result
        · exact (Option.some.inj result).symm
      | makeCallLocked index =>
        rw [makeCallResult, gone] at result
        exact (Option.some.inj result).symm
      | makeCallReturns reading =>
        rw [makeCallResult, gone] at result
        cases result
      | _ => cases result
    · cases action with
      | dropCallLocked index =>
        rw [queuesDrop, gone]
        rfl
      | _ => rfl
  · rw [ledger.made, ledger.past past, List.append_nil]

/-- What does not touch the queue leaves the calls that wait. -/
theorem waiting_map (change : OnSipXmpp → OnSipXmpp)
    (keeps : ∀ object : OnSipXmpp, (change object).requested = object.requested)
    (thread : OnSipThread) :
    ((thread.xmpp.map change).map OnSipXmpp.requested).getD [] = thread.waiting := by
  rw [waiting, Option.map_map]
  congr 2
  funext object
  exact keeps object

theorem waiting_some {object : OnSipXmpp} (own : thread.xmpp = some object) :
    thread.waiting = object.requested := by
  rw [waiting, own]
  rfl

/-- A step that leaves the queue -/
theorem Ledger.moves (ledger : thread.Ledger) (made : next.made = thread.made)
    (polled : next.polled = thread.polled) (waits : next.waiting = thread.waiting)
    (object : next.xmpp.isSome = thread.xmpp.isSome)
    (same : next.control.hasObject = thread.control.hasObject)
    (past : next.control.pastPolls = true →
      thread.control.pastPolls = true ∨ thread.waiting = []) : next.Ledger := by
  refine ⟨by rw [object, ledger.pointer, same], ?_, fun gone => ?_⟩
  · rw [made, polled, waits, ledger.made]
  · rw [waits]
    exact (past gone).elim ledger.past id

/-- A step that leaves the queue and does not move the thread -/
theorem Ledger.stays (ledger : thread.Ledger) (made : next.made = thread.made)
    (polled : next.polled = thread.polled) (waits : next.waiting = thread.waiting)
    (object : next.xmpp.isSome = thread.xmpp.isSome) (same : next.control = thread.control) :
    next.Ledger :=
  ledger.moves made polled waits object (by rw [same]) fun gone => Or.inl (same ▸ gone)

/-- A step of `PollXMPP` -/
theorem Ledger.poll {loop : RunLoop} {control : PollControl} {object last : OnSipXmpp}
    {action : PollAction} {outcome : PollOutcome} (ledger : thread.Ledger)
    (stands : thread.control = .polling loop control) (own : thread.xmpp = some object)
    (polled : control.step object action = some (outcome, last)) :
    Ledger { thread.afterPoll loop outcome with
      xmpp := some last, polled := thread.polled ++ taken object action } := by
  have waits := PollControl.requested_step polled
  have made : (thread.afterPoll loop outcome).made = thread.made ∧
      (thread.afterPoll loop outcome).control.hasObject = true ∧
      (thread.afterPoll loop outcome).control.pastPolls = false := by
    rcases outcome with inside | ce
    · exact ⟨rfl, rfl, rfl⟩
    · cases loop <;> exact ⟨rfl, rfl, rfl⟩
  refine ⟨made.2.1.symm, ?_, fun past => ?_⟩
  · show (thread.afterPoll loop outcome).made = (thread.polled ++ taken object action) ++ last.requested
    rw [made.1, ledger.made, waiting_some own, ← waits, List.append_assoc]
  · exact absurd (made.2.2.symm.trans past) (by decide)

/-- A call of `MakeCall` returns. -/
theorem Ledger.makeCallReturns {reading : Reading} {object last : OnSipXmpp} {callId : Long}
    {number : TString} {others : List (Long × TString)} (ledger : thread.Ledger)
    (early : thread.control.pastPolls = false) (own : thread.xmpp = some object)
    (making : object.calls.making = (callId, number) :: others)
    (added : object.step (.call (.addCallHandler 0 reading)) = some last) :
    Ledger { thread with xmpp := some last, made := thread.made ++ [callId] } := by
  have waits : last.requested = object.requested ++ [callId] := by
    have queued := OnSipXmpp.requested_step_call added
    rw [OnSipXmpp.added, making] at queued
    exact queued
  refine ⟨?_, ?_, fun past => absurd (early.symm.trans past) (by decide)⟩
  · show true = thread.control.hasObject
    rw [← ledger.pointer, own]
    rfl
  · show thread.made ++ [callId] = thread.polled ++ last.requested
    rw [waits, ledger.made, waiting_some own, List.append_assoc]

/-- A call of another thread that neither adds to the queue nor takes it leaves what waits. -/
theorem waiting_call {object last : OnSipXmpp} {action : CallAction}
    (own : thread.xmpp = some object) (called : object.step (.call action) = some last)
    (none : object.added action = []) (notTaken : taken object (.call action) = []) :
    ((some last).map OnSipXmpp.requested).getD [] = thread.waiting := by
  have queued := OnSipXmpp.requested_step_call called
  rw [none, notTaken, List.append_nil, List.nil_append] at queued
  rw [waiting_some own, ← queued]
  rfl

theorem Ledger.step_resume (ledger : thread.Ledger) (stepped : thread.step .resume = some next)
    : next.Ledger := by
  rw [OnSipThread.step] at stepped
  split at stepped
  case h_2 => cases stepped
  case h_1 control =>
    obtain rfl := Option.some.inj stepped
    exact ledger.moves rfl rfl rfl rfl (by rw [control]; rfl) (by simp [RunControl.pastPolls])

theorem Ledger.step_create {reading : Reading} (ledger : thread.Ledger)
    (stepped : thread.step (.create reading) = some next) : next.Ledger := by
  rw [OnSipThread.step] at stepped
  split at stepped
  case h_2 => cases stepped
  case h_1 control =>
    obtain rfl := Option.some.inj stepped
    have gone : thread.xmpp = none := by
      have pointer := ledger.pointer
      rw [control] at pointer
      exact Option.isSome_eq_false_iff.mp pointer |> Option.isNone_iff_eq_none.mp
    have none : thread.waiting = [] := by rw [waiting, gone]; rfl
    exact ⟨rfl, ledger.made.trans (by rw [none]; rfl), fun _ => rfl⟩

theorem Ledger.step_start {reading : Reading} (ledger : thread.Ledger)
    (stepped : thread.step (.start reading) = some next) : next.Ledger := by
  rw [OnSipThread.step] at stepped
  split at stepped
  case h_2 => cases stepped
  case h_1 control =>
    obtain rfl := Option.some.inj stepped
    have waits := waiting_map (OnSipXmpp.start reading thread.loginInfo) (fun _ => rfl) thread
    exact ledger.moves rfl rfl waits Option.isSome_map (by rw [control]; rfl)
      (by simp [RunControl.pastPolls])

theorem Ledger.step_connected {success : Bool} (ledger : thread.Ledger)
    (meets : thread.Meets (.connected success))
    (stepped : thread.step (.connected success) = some next) : next.Ledger := by
  rw [OnSipThread.step] at stepped
  split at stepped
  case h_2 => cases stepped
  case h_1 control =>
    obtain rfl : success = true := meets
    obtain rfl := Option.some.inj stepped
    exact ledger.moves rfl rfl rfl rfl (by rw [control]; rfl) (by simp [RunControl.pastPolls])

theorem Ledger.step_arrive {arrival : Arrival} (ledger : thread.Ledger)
    (stepped : thread.step (.arrive arrival) = some next) : next.Ledger := by
  rw [OnSipThread.step] at stepped
  split at stepped
  case h_3 => cases stepped
  all_goals
    obtain rfl := Option.some.inj stepped
    exact ledger.stays rfl rfl (waiting_map _ (OnSipXmpp.requested_arrive arrival) thread)
      Option.isSome_map rfl

theorem Ledger.step_checkLoop {reading : Reading} (ledger : thread.Ledger)
    (stepped : thread.step (.checkLoop reading) = some next) : next.Ledger := by
  rw [OnSipThread.step] at stepped
  split at stepped
  case h_2 => cases stepped
  case h_1 ce control =>
    split_ifs at stepped
    all_goals
      obtain rfl := Option.some.inj stepped
      exact ledger.moves rfl rfl rfl rfl (by rw [control]; rfl)
        (by simp [RunControl.pastPolls, pollXmpp])

theorem Ledger.step_poll {action : PollAction} (ledger : thread.Ledger)
    (stepped : thread.step (.poll action) = some next) : next.Ledger := by
  rw [OnSipThread.step] at stepped
  split at stepped
  case h_2 => cases stepped
  case h_1 loop control object stands own =>
    obtain ⟨⟨outcome, last⟩, polled, rfl⟩ := Option.map_eq_some_iff.mp stepped
    exact ledger.poll stands own polled

theorem Ledger.step_checkStop {reading : Reading} (ledger : thread.Ledger)
    (meets : thread.Meets (.checkStop reading))
    (stepped : thread.step (.checkStop reading) = some next) : next.Ledger := by
  have none : next.control.pastPolls = true → thread.waiting = [] := fun past =>
    meets (by rw [stepped]; exact past)
  rw [OnSipThread.step] at stepped
  split at stepped
  case h_2 => cases stepped
  case h_1 ce control =>
    split_ifs at stepped
    all_goals obtain rfl := Option.some.inj stepped
    · have waits := waiting_map OnSipXmpp.asyncShutdown (fun _ => rfl) thread
      exact ledger.moves rfl rfl waits Option.isSome_map (by rw [control]; rfl)
        (by simp [RunControl.pastPolls])
    · have waits := waiting_map OnSipXmpp.cleanup (fun _ => rfl) thread
      exact ledger.moves rfl rfl waits Option.isSome_map (by rw [control]; rfl)
        fun past => Or.inr (none past)

theorem Ledger.step_checkShutdown {time reading : Reading} (ledger : thread.Ledger)
    (meets : thread.Meets (.checkShutdown time reading))
    (stepped : thread.step (.checkShutdown time reading) = some next) : next.Ledger := by
  have none : next.control.pastPolls = true → thread.waiting = [] := fun past =>
    meets (by rw [stepped]; exact past)
  rw [OnSipThread.step] at stepped
  split at stepped
  case h_2 => cases stepped
  case h_1 timeout ce control =>
    split_ifs at stepped
    all_goals obtain rfl := Option.some.inj stepped
    · exact ledger.moves rfl rfl rfl rfl (by rw [control]; rfl)
        (by simp [RunControl.pastPolls, pollXmpp])
    · have waits := waiting_map OnSipXmpp.cleanup (fun _ => rfl) thread
      exact ledger.moves rfl rfl waits Option.isSome_map (by rw [control]; rfl)
        fun past => Or.inr (none past)

theorem Ledger.step_disconnected (ledger : thread.Ledger)
    (stepped : thread.step .disconnected = some next) : next.Ledger := by
  rw [OnSipThread.step] at stepped
  split at stepped
  case h_2 => cases stepped
  case h_1 control =>
    obtain rfl := Option.some.inj stepped
    exact ledger.moves rfl rfl rfl rfl (by rw [control]; rfl)
      fun _ => Or.inl (by rw [control]; rfl)

theorem Ledger.step_delete (ledger : thread.Ledger) (stepped : thread.step .delete = some next)
    : next.Ledger := by
  rw [OnSipThread.step] at stepped
  split at stepped
  case h_2 => cases stepped
  case h_1 control =>
    split_ifs at stepped
    obtain rfl := Option.some.inj stepped
    have none := ledger.past (by rw [control]; rfl)
    exact ⟨rfl, ledger.made.trans (by rw [none]; rfl), fun _ => rfl⟩

theorem Ledger.step_signalStop (ledger : thread.Ledger)
    (stepped : thread.step .signalStop = some next) : next.Ledger := by
  obtain rfl := Option.some.inj stepped
  exact ledger.stays rfl rfl rfl rfl rfl

theorem Ledger.step_join (ledger : thread.Ledger) (stepped : thread.step .join = some next)
    : next.Ledger := by
  rw [OnSipThread.step] at stepped
  split at stepped
  case h_2 => cases stepped
  case h_1 control =>
    obtain rfl := Option.some.inj stepped
    exact ledger.stays rfl rfl rfl rfl rfl

theorem Ledger.step_makeCall {number : TString} (ledger : thread.Ledger)
    (stepped : thread.step (.makeCall number) = some next) : next.Ledger := by
  rw [OnSipThread.step] at stepped
  split_ifs at stepped
  all_goals
    obtain rfl := Option.some.inj stepped
    exact ledger.stays rfl rfl rfl rfl rfl

theorem Ledger.step_makeCallLocked {index : Nat} (ledger : thread.Ledger)
    (stepped : thread.step (.makeCallLocked index) = some next) : next.Ledger := by
  rw [OnSipThread.step] at stepped
  split at stepped
  case h_2 => cases stepped
  case h_1 number waits =>
    split_ifs at stepped
    split at stepped
    case h_1 object own =>
      obtain ⟨last, drawn, rfl⟩ := Option.map_eq_some_iff.mp stepped
      exact ledger.stays rfl rfl (waiting_call own drawn rfl rfl) (by rw [own]; rfl) rfl
    case h_2 gone =>
      obtain rfl := Option.some.inj stepped
      exact ledger.stays rfl rfl rfl rfl rfl

theorem Ledger.step_makeCallReturns {reading : Reading} (ledger : thread.Ledger)
    (meets : thread.Meets (.makeCallReturns reading))
    (stepped : thread.step (.makeCallReturns reading) = some next) : next.Ledger := by
  rw [OnSipThread.step] at stepped
  split at stepped
  case h_2 => cases stepped
  case h_1 object own =>
    split at stepped
    case h_2 => cases stepped
    case h_1 callId number others making =>
      obtain ⟨last, added, rfl⟩ := Option.map_eq_some_iff.mp stepped
      exact ledger.makeCallReturns meets own making added

theorem Ledger.step_dropCall {callId : Long} (ledger : thread.Ledger)
    (stepped : thread.step (.dropCall callId) = some next) : next.Ledger := by
  rw [OnSipThread.step] at stepped
  split_ifs at stepped
  all_goals
    obtain rfl := Option.some.inj stepped
    exact ledger.stays rfl rfl rfl rfl rfl

theorem Ledger.step_dropCallLocked {index : Nat} (ledger : thread.Ledger)
    (stepped : thread.step (.dropCallLocked index) = some next) : next.Ledger := by
  rw [OnSipThread.step] at stepped
  split at stepped
  case h_2 => cases stepped
  case h_1 callId waits =>
    split_ifs at stepped
    split at stepped
    case h_1 object own =>
      obtain ⟨last, dropped, rfl⟩ := Option.map_eq_some_iff.mp stepped
      exact ledger.stays rfl rfl (waiting_call own dropped rfl rfl) (by rw [own]; rfl) rfl
    case h_2 gone =>
      obtain rfl := Option.some.inj stepped
      exact ledger.stays rfl rfl rfl rfl rfl

theorem Ledger.step {action : RunAction} (ledger : thread.Ledger) (meets : thread.Meets action)
    (stepped : thread.step action = some next) : next.Ledger := by
  cases action with
  | resume => exact ledger.step_resume stepped
  | create => exact ledger.step_create stepped
  | start => exact ledger.step_start stepped
  | connected => exact ledger.step_connected meets stepped
  | arrive => exact ledger.step_arrive stepped
  | checkLoop => exact ledger.step_checkLoop stepped
  | poll => exact ledger.step_poll stepped
  | checkStop => exact ledger.step_checkStop meets stepped
  | checkShutdown => exact ledger.step_checkShutdown meets stepped
  | disconnected => exact ledger.step_disconnected stepped
  | delete => exact ledger.step_delete stepped
  | signalStop => exact ledger.step_signalStop stepped
  | join => exact ledger.step_join stepped
  | makeCall => exact ledger.step_makeCall stepped
  | makeCallLocked => exact ledger.step_makeCallLocked stepped
  | makeCallReturns => exact ledger.step_makeCallReturns meets stepped
  | dropCall => exact ledger.step_dropCall stepped
  | dropCallLocked => exact ledger.step_dropCallLocked stepped

/-- In every run in which the thread connects, leaves its polling only when no call waits, and no
call is added after its last poll, the calls of other threads find what they are promised. -/
theorem keepsPromise_of_run {loginInfo : LoginInfo} {actions : List RunAction}
    (reached : run step actions (new loginInfo) = some thread)
    (meets : Along step Meets actions (new loginInfo)) : thread.KeepsPromise := by
  have start : (new loginInfo).Ledger := ⟨rfl, rfl, fun _ => rfl⟩
  have ledger : thread.Ledger :=
    run_invariant_along (fun before action next meets stepped ledger =>
      Ledger.step ledger meets stepped) reached meets start
  exact ledger.keepsPromise

end OnSipThread

/-! ### Two runs -/

namespace Example

/-- The thread begins, and its attempt to connect succeeds or fails. -/
def threadStarts (success : Bool) : List RunAction :=
  [.resume, .create (reading 0), .start (reading 0), .connected success]

/-- `PollXMPP` from the given time on, with the steps of its poll of the calls and without an
event -/
def pollsXmpp (tick : Nat) (calls : List CallAction) : List RunAction :=
  [.checkLoop (reading tick),
    .poll (.checkTime (reading tick) (reading tick) (.still (reading tick)) (reading tick))] ++
  calls.map (fun action => .poll (.call action)) ++
  [.poll (.received .connNoError),
    .poll (.checkTime (reading (tick + 1000)) (reading (tick + 1000)) (.still (reading tick))
      (reading tick))]

/-- A poll of the calls that takes one handler from the queue -/
def takesHandler (tick : Nat) : List CallAction :=
  [.testRequests, .takeRequests, .handleRequest ⟨reading tick, reading tick⟩, .testEvents,
    .pollHandlers (readings tick)]

def makesCall (tick : Nat) : List RunAction :=
  [.makeCall "5550100".toList, .makeCallLocked 0, .makeCallReturns (reading tick)]

/-- A call is made and polled, and the thread is stopped. -/
def threadStops : List RunAction :=
  threadStarts true ++ makesCall 100 ++ pollsXmpp 250 (takesHandler 250) ++
    [.signalStop, .checkLoop (reading 2000), .checkStop (reading 2000),
      .checkShutdown (reading 7000) (reading 7000), .disconnected, .delete, .join]

end Example

namespace OnSipThread

/-- A thread that polls the call before it ends keeps its promise. -/
theorem keepsPromise_threadStops :
    ∃ thread, run step Example.threadStops (new Example.login) = some thread ∧
      thread.control = .returned ∧ thread.made = [1] ∧ thread.KeepsPromise := by
  have reached : run step Example.threadStops (new Example.login) = some _ := rfl
  refine ⟨_, reached, rfl, rfl, keepsPromise_of_run reached ?_⟩
  decide

/-- A thread that could not connect has returned, and `MakeCall` gives out an id. -/
theorem not_keepsPromise_notConnected :
    ¬ ∀ (actions : List RunAction) (thread : OnSipThread),
      run step actions (new Example.login) = some thread → thread.KeepsPromise := by
  intro claim
  have reached : run step (Example.threadStarts false ++ (Example.makesCall 100).take 2)
      (new Example.login) = some _ := rfl
  have refused := (claim _ _ reached).refuses rfl (.makeCallReturns (Example.reading 100)) _ rfl
  exact absurd (refused.1 1 rfl) (by decide)

/-- A call that is made while the object disconnects gets an id and is never polled. -/
theorem not_keepsPromise_lateCall :
    ∃ thread, run step (Example.threadStarts true ++
        [.signalStop, .checkLoop (Example.reading 2000), .checkStop (Example.reading 2000),
          .checkShutdown (Example.reading 7000) (Example.reading 7000)] ++
        Example.makesCall 7100 ++ [.disconnected, .delete]) (new Example.login) = some thread ∧
      thread.control = .returned ∧ thread.made = [1] ∧ thread.polled = [] :=
  ⟨_, rfl, rfl, rfl, rfl⟩

end OnSipThread

end JnTapi
