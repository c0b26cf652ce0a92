/-
This file proves when the calls that the program makes have distinct call setup
ids.

The id of a call is the clock at the time of its request, cut to eight
characters. Two ids agree exactly when the two readings of the clock have the
same tail, so the calls in the machine are told apart as long as each is
requested at a tail of its own.
-/

import JnTapi.Library.Decimal
import JnTapi.Call.SipCalls

namespace JnTapi

open Library

/-! ### What the call setup id says about the clock -/

/-- What eight characters show of the clock: a small negative number with its sign, else the last
eight digits. -/
def clockTail (clock : Long) : Int :=
  if -10 ^ 7 < clock.toInt ∧ clock.toInt < 0 then clock.toInt
  else (clock.toInt.natAbs % 10 ^ 8 : Nat)

theorem digits_padZeros (width value : Nat) :
    Digits (Strings.padZeros width (Nat.toDigits 10 value)) :=
  (digits_replicate_zero _).append (digits_toDigits value)

theorem value_padZeros (width value : Nat) :
    Nat.ofDigitChars 10 (Strings.padZeros width (Nat.toDigits 10 value)) 0 = value := by
  rw [Strings.padZeros, value_zeros_append, Nat.ofDigitChars_ten_toDigits]

theorem length_padZeros (width : Nat) (digits : TString) :
    (Strings.padZeros width digits).length = max width digits.length := by
  rw [Strings.padZeros, List.length_append, List.length_replicate]
  omega

/-- A small negative clock is shown with its sign. -/
theorem newCallSetupId_of_small {reading : Reading}
    (small : -10 ^ 7 < reading.clock.toInt ∧ reading.clock.toInt < 0) :
    CallHandler.newCallSetupId reading =
      '-' :: Strings.padZeros 7 (Nat.toDigits 10 reading.clock.toInt.natAbs) := by
  have length : (Nat.toDigits 10 reading.clock.toInt.natAbs).length ≤ 7 :=
    (Nat.length_toDigits_le_iff (by decide) (by decide)).mpr (by omega)
  have padded := length_padZeros 7 (Nat.toDigits 10 reading.clock.toInt.natAbs)
  unfold CallHandler.newCallSetupId Strings.formatLong08
  dsimp only
  rw [if_pos small.2, if_neg]
  rw [List.length_cons, padded]
  omega

/-- Every other clock is shown by its last eight digits. -/
theorem newCallSetupId_of_large {reading : Reading}
    (large : ¬ (-10 ^ 7 < reading.clock.toInt ∧ reading.clock.toInt < 0)) :
    Digits (CallHandler.newCallSetupId reading) ∧
      (CallHandler.newCallSetupId reading).length = 8 ∧
      Nat.ofDigitChars 10 (CallHandler.newCallSetupId reading) 0 =
        reading.clock.toInt.natAbs % 10 ^ 8 := by
  have shown : ∃ text, Digits text ∧ 8 ≤ text.length ∧
      Nat.ofDigitChars 10 text 0 = reading.clock.toInt.natAbs ∧
      CallHandler.newCallSetupId reading = text.drop (text.length - 8) := by
    unfold CallHandler.newCallSetupId Strings.formatLong08
    dsimp only
    by_cases negative : reading.clock.toInt < 0
    · rw [if_pos negative]
      have length := length_padZeros 7 (Nat.toDigits 10 reading.clock.toInt.natAbs)
      have long : 8 ≤ (Nat.toDigits 10 reading.clock.toInt.natAbs).length := by
        have longer := (Nat.length_toDigits_le_iff (b := 10) (k := 7)
          (n := reading.clock.toInt.natAbs) (by decide) (by decide)).not.mpr (by omega)
        omega
      refine ⟨_, digits_padZeros 7 _, by omega, value_padZeros 7 _, ?_⟩
      rw [if_pos (by rw [List.length_cons]; omega), List.length_cons]
      obtain ⟨more, enough⟩ := Nat.exists_eq_add_of_le (by omega :
        8 ≤ (Strings.padZeros 7 (Nat.toDigits 10 reading.clock.toInt.natAbs)).length)
      rw [enough, Nat.add_sub_cancel_left, show 8 + more + 1 - 8 = more + 1 by omega,
        List.drop_succ_cons]
    · rw [if_neg negative]
      have length := length_padZeros 8 (Nat.toDigits 10 reading.clock.toInt.natAbs)
      refine ⟨_, digits_padZeros 8 _, by omega, value_padZeros 8 _, ?_⟩
      split_ifs with long
      · rfl
      · rw [show (Strings.padZeros 8 (Nat.toDigits 10 reading.clock.toInt.natAbs)).length - 8 = 0
          by omega, List.drop_zero]
  obtain ⟨text, digits, long, value, same⟩ := shown
  rw [same, digits.value_drop long, value, List.length_drop]
  exact ⟨digits.drop _, by omega, rfl⟩

/-- Two call setup ids agree exactly when the clocks have the same tail. -/
theorem newCallSetupId_eq_iff (first second : Reading) :
    CallHandler.newCallSetupId first = CallHandler.newCallSetupId second ↔
      clockTail first.clock = clockTail second.clock := by
  unfold clockTail
  have apart : ∀ {text : TString}, Digits text → ∀ {rest : TString}, text ≠ '-' :: rest := by
    rintro text digits rest rfl
    exact absurd (digits '-' List.mem_cons_self) (by decide)
  split_ifs with left right right
  · rw [newCallSetupId_of_small left, newCallSetupId_of_small right]
    constructor
    · intro same
      have values := congrArg (fun text => Nat.ofDigitChars 10 text 0) (List.cons.inj same).2
      simp only [value_padZeros] at values
      omega
    · intro same
      rw [same]
  · rw [newCallSetupId_of_small left]
    exact iff_of_false (fun same => apart (newCallSetupId_of_large right).1 same.symm) (by omega)
  · rw [newCallSetupId_of_small right]
    exact iff_of_false (apart (newCallSetupId_of_large left).1) (by omega)
  · obtain ⟨leftDigits, leftLength, leftValue⟩ := newCallSetupId_of_large left
    obtain ⟨rightDigits, rightLength, rightValue⟩ := newCallSetupId_of_large right
    constructor
    · intro same
      rw [← leftValue, ← rightValue, same]
    · intro same
      refine leftDigits.eq_of_value_eq rightDigits (leftLength.trans rightLength.symm) ?_
      rw [leftValue, rightValue]
      exact Int.ofNat.inj same

/-! ### The requests of the calls in the machine -/

namespace CallHandler

/-- The context id and the call setup id of the request of a call that the program makes -/
def request? (handler : CallHandler) : Option (Long × TString) :=
  match handler.kind with
  | .makeCall make => some (make.contextId, handler.stateData.callSetupId)
  | _ => none

theorem Making.request?_eq {setup : TString} {make : MakeCallData} {handler : CallHandler}
    (making : handler.Making setup make) : handler.request? = some (make.contextId, setup) := by
  obtain ⟨data, kind, same⟩ := making.kind
  unfold request?
  rw [kind, ← same.contextId, ← making.each.current]

theorem OnPhone.request?_eq {sipCallId : TString} {handler : CallHandler}
    (onPhone : handler.OnPhone sipCallId) : handler.request? = none := by
  unfold request?
  rcases onPhone.kind with kind | kind
  · rw [kind]
  · rw [kind]

/-- No move changes the request. -/
theorem Known.request?_moved {handler : CallHandler} (known : handler.Known) (next : Move) :
    (handler.moved next).request? = handler.request? := by
  rcases known with ⟨sipCallId, onPhone⟩ | ⟨setup, make, printable, making⟩
  · rw [(onPhone.moved next).request?_eq, onPhone.request?_eq]
  · rw [(making.moved printable next).1.request?_eq, making.request?_eq]

/-- The handler of a call that the program makes refuses an active-call event with another call
setup id. -/
theorem refuses_of_callSetupId {handler : CallHandler} {contextId : Long} {setup : TString}
    (request : handler.request? = some (contextId, setup)) (reading : Reading) {event : XmppEvent}
    {ace : ActiveCall} (isCall : event.data = .activeCall ace) (other : ace.callSetupId ≠ setup)
    (xmpp : Xmpp) : (handler.isYourEvent reading event xmpp).1 = false := by
  unfold request? at request
  unfold isYourEvent
  cases kind : handler.kind with
  | makeCall make =>
    rw [kind] at request
    obtain rfl := (Prod.mk.inj (Option.some.inj request)).2
    have foreign : handler.stateData.sameCallSetupId ace.callSetupId = false := by
      simp [OnSipCallStateData.sameCallSetupId, Ne.symm other]
    simp [makeCallIsYourEvent, isCall, foreign]
  | _ =>
    rw [kind] at request
    cases request

end CallHandler

namespace CallSystem

/-- The requests of the calls in the machine that the program makes -/
def requests (system : CallSystem) : List (Long × TString) :=
  system.stateHandlers.filterMap CallHandler.request?

/-- The context ids of these requests -/
def contextIds (system : CallSystem) : List Long := system.requests.map Prod.fst

/-- The call setup ids of these requests -/
def callSetupIds (system : CallSystem) : List TString := system.requests.map Prod.snd

end CallSystem

/-! ### The clocks of the requests -/

/-- The call machine with the clock at which each request was executed, by the context id of its
command. -/
structure Dialling where
  system : CallSystem
  dialled : List (Long × Long)

namespace Dialling

/-- Before anything has happened -/
def new (login : LoginInfo) : Dialling := ⟨CallSystem.new login, []⟩

/-- The context id and the clock of the request that the step executes -/
def executed (system : CallSystem) : CallAction → List (Long × Long)
  | .handleRequest readings => [(system.xmpp.getUniqueId.1, readings.preExecute.clock)]
  | _ => []

/-- A step of the call machine, with the request that it executes -/
def step (dialling : Dialling) (action : CallAction) : Option Dialling :=
  (dialling.system.step action).map fun next =>
    ⟨next, dialling.dialled ++ executed dialling.system action⟩

/-- Every run of the call machine is one with the clocks of its requests. -/
theorem exists_run {actions : List CallAction} (dialling : Dialling) {last : CallSystem}
    (reached : run CallSystem.step actions dialling.system = some last) :
    ∃ dialled, run step actions dialling = some ⟨last, dialled⟩ := by
  induction actions generalizing dialling with
  | nil =>
    obtain rfl : dialling.system = last := Option.some.inj reached
    exact ⟨dialling.dialled, rfl⟩
  | cons action rest inductionHypothesis =>
    obtain ⟨next, stepped, remaining⟩ := run_cons_eq_some.mp reached
    obtain ⟨dialled, more⟩ := inductionHypothesis
      ⟨next, dialling.dialled ++ executed dialling.system action⟩ remaining
    exact ⟨dialled, run_cons_eq_some.mpr ⟨_, by rw [step, stepped]; rfl, more⟩⟩

/-- A request is executed at a clock with another tail than those at which the calls in the
machine were requested. -/
def TailsApart (dialling : Dialling) : CallAction → Prop
  | .handleRequest readings => ∀ request ∈ dialling.dialled,
      request.1 ∈ dialling.system.contextIds →
        clockTail request.2 ≠ clockTail readings.preExecute.clock
  | _ => True

instance (dialling : Dialling) (action : CallAction) : Decidable (dialling.TailsApart action) :=
  haveI := lawfulBEq_long
  match action with
  | .handleRequest _ => List.decidableBAll _ dialling.dialled
  | .drawId | .drawCallId _ | .addCallHandler _ _ | .dropCallAsync _ | .addEvent _
  | .signalEvent _ _ _ | .testRequests | .takeRequests | .testEvents | .takeEvents
  | .signalNext _ | .pollHandlers _ | .removeStateHandlers => instDecidableTrue

/-- The calls in the machine are told apart by the clocks of their requests. -/
structure Told (dialling : Dialling) : Prop where
  requests : dialling.system.NewRequests
  known : ∀ handler ∈ dialling.system.stateHandlers, handler.Known
  dialled : ∀ request ∈ dialling.system.requests, ∃ reading : Reading,
    (request.1, reading.clock) ∈ dialling.dialled ∧
      request.2 = CallHandler.newCallSetupId reading
  distinct : dialling.system.callSetupIds.Nodup

open CallHandler in
/-- A step that meets the condition keeps the calls apart. -/
theorem Told.step {dialling next : Dialling} {action : CallAction} (told : dialling.Told)
    (apart : dialling.TailsApart action) (stepped : dialling.step action = some next) :
    next.Told := by
  obtain ⟨system, moved, rfl⟩ := Option.map_eq_some_iff.mp stepped
  have requests := told.requests.step moved
  have known := forall_step (fun _ next known => known.moved next)
    (fun _ created => known_created created) moved told.requests told.known
  have earlier : ∀ request ∈ dialling.system.requests, ∃ reading : Reading,
      (request.1, reading.clock) ∈ dialling.dialled ++ executed dialling.system action ∧
        request.2 = newCallSetupId reading := by
    intro request member
    obtain ⟨reading, before, same⟩ := told.dialled request member
    exact ⟨reading, List.mem_append_left _ before, same⟩
  rcases tags_step (fun _ next known => Known.request?_moved known next) moved told.requests
    (fun _ next known => known.moved next) (fun _ created => known_created created)
    told.known with fewer | ⟨entered, enters, fewer⟩
  · exact ⟨requests, known, fun request member => earlier request (fewer.subset member),
      told.distinct.sublist (fewer.map Prod.snd)⟩
  · cases enters with
    | unknown signals refused creates =>
      obtain ⟨ace, -, onPhone⟩ := onPhone_unknownEvent creates
      rw [onPhone.request?_eq] at fewer
      change system.requests.Sublist (dialling.system.requests ++ []) at fewer
      rw [List.append_nil] at fewer
      exact ⟨requests, known, fun request member => earlier request (fewer.subset member),
        told.distinct.sublist (fewer.map Prod.snd)⟩
    | @executed readings request _ pending new =>
      obtain ⟨created, toDial, callId, rfl⟩ := new
      rw [(making_preExecute created readings.preExecute toDial callId
        dialling.system.xmpp).request?_eq] at fewer
      refine ⟨requests, known, ?_, List.Nodup.sublist (fewer.map Prod.snd) ?_⟩
      · intro request member
        rcases List.mem_append.mp (fewer.subset member) with before | last
        · exact earlier request before
        · obtain rfl := List.mem_singleton.mp last
          exact ⟨readings.preExecute, List.mem_append_right _ List.mem_cons_self, rfl⟩
      · rw [List.map_append]
        refine List.nodup_append.mpr ⟨told.distinct, List.nodup_singleton _, ?_⟩
        rintro setup member _ last rfl
        obtain ⟨request, inside, same⟩ := List.mem_map.mp member
        obtain ⟨reading, dialled, setupId⟩ := told.dialled request inside
        have collides : newCallSetupId reading = newCallSetupId readings.preExecute := by
          rw [← setupId, same]
          exact List.mem_singleton.mp last
        exact apart (request.1, reading.clock) dialled (List.mem_map_of_mem inside)
          ((newCallSetupId_eq_iff _ _).mp collides)

theorem told_new (login : LoginInfo) : (new login).Told :=
  ⟨fun _ member => absurd member List.not_mem_nil, fun _ member => absurd member List.not_mem_nil,
    fun _ member => absurd member List.not_mem_nil, List.nodup_nil⟩

end Dialling

/-- Distinct call setup ids: in a run in which every request is executed at a clock with another
tail than those of the calls in the machine, the calls in the machine that the program makes have
distinct call setup ids, and an active-call event with the id of one is refused by all others. -/
theorem callSetupIds_distinct {login : LoginInfo} {actions : List CallAction} {system : CallSystem}
    (reached : run CallSystem.step actions (CallSystem.new login) = some system)
    (apart : Along Dialling.step Dialling.TailsApart actions (Dialling.new login)) :
    system.callSetupIds.Nodup ∧
    ∀ before handler after contextId setup, system.stateHandlers = before ++ handler :: after →
      handler.request? = some (contextId, setup) →
      ∀ other ∈ before ++ after, other.request?.isSome →
        ∀ reading event ace xmpp, event.data = .activeCall ace → ace.callSetupId = setup →
          (other.isYourEvent reading event xmpp).1 = false := by
  obtain ⟨dialled, followed⟩ := Dialling.exists_run (Dialling.new login) reached
  have told : Dialling.Told ⟨system, dialled⟩ :=
    run_invariant_along (fun _ _ _ apart stepped told => told.step apart stepped) followed apart
      (Dialling.told_new login)
  refine ⟨told.distinct, ?_⟩
  intro before handler after contextId setup split request other inside making reading event ace
    xmpp isCall same
  obtain ⟨⟨otherContextId, otherSetup⟩, otherRequest⟩ := Option.isSome_iff_exists.mp making
  refine CallHandler.refuses_of_callSetupId otherRequest reading isCall ?_ xmpp
  rintro rfl
  have distinct := told.distinct
  unfold CallSystem.callSetupIds CallSystem.requests at distinct
  rw [split, List.filterMap_append, List.filterMap_cons_some request, List.map_append,
    List.map_cons] at distinct
  have alone := (List.nodup_cons.mp (List.nodup_middle.mp distinct)).1
  refine alone ?_
  rw [← List.map_append, ← List.filterMap_append]
  exact List.mem_map.mpr ⟨_, List.mem_filterMap.mpr ⟨other, inside, otherRequest⟩, same⟩

namespace Example

/-- Two calls are requested at the given ticks, and each request is executed in a poll of its
own. -/
def makeTwice (first second : Nat) : List CallAction :=
  [.drawCallId "123".toList, .addCallHandler 0 (reading first)] ++ pollOneRequest first ++
    [.drawCallId "456".toList, .addCallHandler 0 (reading second)] ++ pollOneRequest second

end Example

/-- Two calls that are requested in different milliseconds have different ids. -/
theorem callSetupIds_distinct_makeTwice :
    ∃ system, run CallSystem.step (Example.makeTwice 5 6) (CallSystem.new Example.login) =
        some system ∧
      system.callSetupIds = ["00000005".toList, "00000006".toList] ∧ system.callSetupIds.Nodup := by
  have reached : run CallSystem.step (Example.makeTwice 5 6) (CallSystem.new Example.login) =
    some _ := rfl
  exact ⟨_, reached, by decide, (callSetupIds_distinct reached (by decide)).1⟩

/-- The clock at which a step executes a request, if it executes one -/
def requestClock? : CallAction → Option Int
  | .handleRequest readings => some readings.preExecute.clock.toInt
  | _ => none

/-- Two requests that wait in the queue together are executed in one poll, in the same
millisecond, and their calls have the same id. -/
theorem callSetupIds_makeTogether :
    ¬ ∀ (login : LoginInfo) (actions : List CallAction) (system : CallSystem),
      (actions.filterMap requestClock?).Pairwise (· ≤ ·) →
      run CallSystem.step actions (CallSystem.new login) = some system →
        system.callSetupIds.Nodup := by
  intro distinct
  let reading := Example.reading 5
  let together : List CallAction :=
    [.drawCallId "123".toList, .addCallHandler 0 reading, .drawCallId "456".toList,
      .addCallHandler 0 reading, .testRequests, .takeRequests, .handleRequest ⟨reading, reading⟩,
      .handleRequest ⟨reading, reading⟩]
  have reached : run CallSystem.step together (CallSystem.new Example.login) = some _ := rfl
  exact absurd (distinct Example.login together _ (by decide) reached) (by decide)

end JnTapi
