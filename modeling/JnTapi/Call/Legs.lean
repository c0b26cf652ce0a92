/-
This file proves how a call that the program makes gets connected.

The call goes through two legs, and each of them through two events. The handler
looks at its state, at the To field and at the dialog state before it takes the
next step, so a connected call has seen the four events in order; whatever came
in between has left its state as it was.
-/

import Mathlib.Data.List.TakeWhile
import JnTapi.Call.History

namespace JnTapi

open Library

/-- The call setup id can be passed on: it has no zero character. -/
theorem cStr_newCallSetupId (reading : Reading) :
    Strings.cStr (CallHandler.newCallSetupId reading) = CallHandler.newCallSetupId reading := by
  have digits : ∀ value : Nat, ∀ char ∈ Nat.toDigits 10 value, char ≠ '\x00' := by
    rintro value char member rfl
    exact absurd (Nat.isDigit_of_mem_toDigits (by decide) (by decide) member) (by decide)
  have padded : ∀ width value, ∀ char ∈ Strings.padZeros width (Nat.toDigits 10 value),
      char ≠ '\x00' := by
    intro width value char member
    rcases List.mem_append.mp member with zero | digit
    · rw [List.eq_of_mem_replicate zero]
      decide
    · exact digits value char digit
  have formatted : ∀ value : Int, ∀ char ∈ Strings.formatLong08 value, char ≠ '\x00' := by
    intro value char member
    unfold Strings.formatLong08 at member
    split_ifs at member
    · rcases List.mem_cons.mp member with rfl | digit
      · decide
      · exact padded _ _ char digit
    · exact padded _ _ char member
  refine List.takeWhile_eq_self_iff.mpr fun char member => decide_eq_true ?_
  unfold CallHandler.newCallSetupId at member
  dsimp only at member
  split_ifs at member
  · exact formatted _ char (List.mem_of_mem_drop member)
  · exact formatted _ char member

namespace CallHandler

/-! ### What stays the same -/

/-- The data are those of the same request: its context id and its To and From fields. -/
structure SameRequest (data make : MakeCallData) : Prop where
  contextId : data.contextId = make.contextId
  toSipField : data.toSipField = make.toSipField
  fromSipField : data.fromSipField = make.fromSipField

/-- The handler is that of the call with this setup id that was requested with these data. -/
structure Making (setup : TString) (make : MakeCallData) (handler : CallHandler) : Prop where
  kind : ∃ data, handler.kind = .makeCall data ∧ SameRequest data make
  each : handler.Each fun data => data.callSetupId = setup

section making

variable {setup : TString} {make : MakeCallData} {handler : CallHandler}

theorem Making.assignNewState (making : handler.Making setup make) (reading : Reading)
    (state : CallStates) (eventData : Option XmppEvent) (xmpp : Xmpp) :
    (handler.assignNewState reading state eventData xmpp).1.Making setup make :=
  ⟨making.kind, making.each.current, making.each.branch⟩

theorem Making.withMake (making : handler.Making setup make) {data : MakeCallData}
    (same : SameRequest data make) : (handler.withMake data).Making setup make :=
  ⟨⟨data, rfl, same⟩, making.each.current, making.each.branch⟩

theorem Making.assignCallStateData (making : handler.Making setup make) (id : TString)
    (ace : ActiveCall) (updateCallerId : Bool) :
    (handler.assignCallStateData id ace updateCallerId).Making setup make :=
  ⟨making.kind, making.each.current, making.each.branch⟩

theorem Making.addBranch (making : handler.Making setup make)
    (printable : Strings.cStr setup = setup) (id : TString) (ace : ActiveCall)
    (updateCallerId : Bool) :
    (handler.addBranch id ace updateCallerId handler.callSetupIdArgument).Making setup make := by
  refine ⟨making.kind, making.each.addBranch id ace updateCallerId _ fun data => ?_⟩
  show Strings.cStr handler.stateData.callSetupId = setup
  rw [making.each.current, printable]

theorem Making.retracted (making : handler.Making setup make) {id : TString}
    (present : handler.branches.hasId id = true) {last : Bool} {callData : OnSipCallStateData}
    {branches : CallBranches}
    (outcome : handler.branches.checkDroppedCall handler.stateData id =
      (last, callData, branches)) :
    Making setup make { handler.withStateData callData with branches := branches } :=
  ⟨making.kind, making.each.retracted present outcome⟩

end making

/-! ### The legs -/

/-- One step of the protocol: an active-call event of the call with this To field and this dialog
state takes the handler to this state. -/
structure Leg where
  dialogState : CallDialogState
  toUri : TString
  state : CallStates
deriving DecidableEq, Repr

/-- The steps that connect a call which has been requested. -/
def protocol (make : MakeCallData) : List Leg :=
  [⟨.requested, make.fromSipField, .makeCallRequested⟩,
    ⟨.confirmed, make.fromSipField, .makeCallRequestedAnswered⟩,
    ⟨.created, make.toSipField, .makeCallOutgoingCreated⟩,
    ⟨.confirmed, make.toSipField, .connected⟩]

/-- The steps of the protocol that are still to come for a handler in this state. Other states lead
no further. -/
def legsFrom (make : MakeCallData) : CallStates → Option (List Leg)
  | .makeCallSet => some (protocol make)
  | .makeCallRequested => some ((protocol make).drop 1)
  | .makeCallRequestedAnswered => some ((protocol make).drop 2)
  | .makeCallOutgoingCreated => some ((protocol make).drop 3)
  | .connected => some []
  | _ => none

/-- The event is an active-call event without an error that carries the call setup id and is the
one of this step. -/
def Leg.MetBy (setup : TString) (event : XmppEvent) (leg : Leg) : Prop :=
  event.isError = false ∧ ∃ ace, event.data = .activeCall ace ∧ ace.callSetupId = setup ∧
    ace.dialogState = leg.dialogState ∧ ace.toUri = leg.toUri

/-- What an event or a check can make of the state: it stays, the call is given up, or the event
takes the next step of the protocol. -/
inductive Goes (setup : TString) (make : MakeCallData) (state : CallStates)
    (event : Option XmppEvent) (next : CallStates) : Prop
  | stays (same : next = state)
  | ends (ended : next = .dropped ∨ next = .preDropCall)
  | advances (leg : Leg) (rest : List Leg) (given : XmppEvent) (isEvent : event = some given)
      (before : legsFrom make state = some (leg :: rest)) (met : leg.MetBy setup given)
      (arrives : next = leg.state) (after : legsFrom make next = some rest)

section steps

variable {setup : TString} {make : MakeCallData} {handler : CallHandler}

/-- What the handler makes of an active-call event of its call -/
theorem Making.activeCall (making : handler.Making setup make)
    (printable : Strings.cStr setup = setup) {data : MakeCallData}
    (same : SameRequest data make) (reading : Reading)
    {event : XmppEvent} {ace : ActiveCall} (isCall : event.data = .activeCall ace)
    (ours : ace.callSetupId = setup) (fine : event.isError = false) (xmpp : Xmpp) :
    (handler.makeCallActiveCall data reading event ace xmpp).2.1.Making setup make ∧
      Goes setup make handler.state (some event)
        (handler.makeCallActiveCall data reading event ace xmpp).2.1.state := by
  have met : ∀ leg : Leg, ace.dialogState = leg.dialogState → ace.toUri = leg.toUri →
      leg.MetBy setup event := fun leg dialogState toUri =>
    ⟨fine, ace, isCall, ours, dialogState, toUri⟩
  have first : ∀ sipCallId, SameRequest { data with inSipCallId := sipCallId } make :=
    fun _ => ⟨same.contextId, same.toSipField, same.fromSipField⟩
  have second : ∀ sipCallId id,
      SameRequest { data with outSipCallId := sipCallId, outId := id } make :=
    fun _ _ => ⟨same.contextId, same.toSipField, same.fromSipField⟩
  unfold makeCallActiveCall
  split_ifs with requested set answering confirmed outgoing created connecting connected
  · refine ⟨((making.assignNewState reading _ _ xmpp).withMake
      (first ace.sipCallid)).assignCallStateData _ _ _, ?_⟩
    rw [set]
    exact .advances _ _ event rfl rfl
      (met _ requested.2 (requested.1.symm.trans same.fromSipField)) rfl rfl
  · exact ⟨making, .stays rfl⟩
  · refine ⟨(making.assignNewState reading _ _ xmpp).assignCallStateData _ _ _, ?_⟩
    rw [answering.1]
    exact .advances _ _ event rfl rfl
      (met _ confirmed (answering.2.symm.trans same.fromSipField)) rfl rfl
  · exact ⟨(making.assignNewState reading _ _ xmpp).assignCallStateData _ _ _, .ends (Or.inl rfl)⟩
  · refine ⟨(((making.assignNewState reading _ _ xmpp).addBranch printable _ _ _).withMake
      (second ace.sipCallid event.id)).assignCallStateData _ _ _, ?_⟩
    rw [outgoing.1]
    exact .advances _ _ event rfl rfl
      (met _ created (outgoing.2.symm.trans same.toSipField)) rfl rfl
  · exact ⟨((making.assignNewState reading _ _ xmpp).withMake
      (second ace.sipCallid event.id)).assignCallStateData _ _ _, .ends (Or.inl rfl)⟩
  · refine ⟨((making.assignNewState reading _ _ xmpp).assignCallStateData _ _ _).addBranch
      printable _ _ _, ?_⟩
    rw [connecting.1]
    exact .advances _ _ event rfl rfl
      (met _ connected (connecting.2.symm.trans same.toSipField)) rfl rfl
  · exact ⟨making.assignNewState reading _ _ xmpp, .ends (Or.inl rfl)⟩
  · exact ⟨making, .stays rfl⟩

/-- The end of `IsYourEvent` gives the call up at most. -/
theorem Making.dropRequestOrReply (making : handler.Making setup make) (reading : Reading)
    (event : XmppEvent) (xmpp : Xmpp) :
    (handler.dropRequestOrReply reading event xmpp).2.1.Making setup make ∧
      Goes setup make handler.state (some event)
        (handler.dropRequestOrReply reading event xmpp).2.1.state := by
  obtain ⟨contextIds, result | result⟩ := dropRequestOrReply_handler reading handler event xmpp
  · rw [result]
    exact ⟨⟨making.kind, making.each.current, making.each.branch⟩, .stays rfl⟩
  · rw [result]
    exact ⟨⟨making.kind, making.each.current, making.each.branch⟩, .ends (Or.inr rfl)⟩

/-- What the handler makes of an event -/
theorem Making.isYourEvent (making : handler.Making setup make)
    (printable : Strings.cStr setup = setup) (reading : Reading) (event : XmppEvent)
    (xmpp : Xmpp) :
    (handler.isYourEvent reading event xmpp).2.1.Making setup make ∧
      Goes setup make handler.state (some event)
        (handler.isYourEvent reading event xmpp).2.1.state := by
  obtain ⟨data, kind, sameRequest⟩ := making.kind
  have drops : (handler.assignNewState reading .dropped (some event) xmpp).1.Making setup make ∧
      Goes setup make handler.state (some event)
        (handler.assignNewState reading .dropped (some event) xmpp).1.state :=
    ⟨making.assignNewState reading _ _ xmpp, .ends (Or.inl rfl)⟩
  unfold CallHandler.isYourEvent
  rw [kind]
  dsimp only
  unfold makeCallIsYourEvent
  split
  case h_1 ace isCall =>
    split_ifs with foreign failed
    · exact ⟨making, .stays rfl⟩
    · exact drops
    · have ours : ace.callSetupId = setup := by
        simp only [Bool.or_eq_true, Bool.not_eq_true', not_or, Bool.not_eq_false] at foreign
        have same := foreign.2
        unfold OnSipCallStateData.sameCallSetupId at same
        rw [making.each.current] at same
        exact (beq_iff_eq.mp (Bool.and_eq_true_iff.mp same).2).symm
      have fine : event.isError = false := by simpa using failed
      exact (making.addBranch printable event.id ace false).activeCall printable sameRequest
        reading isCall ours fine xmpp
  case h_2 =>
    split_ifs with present
    · rcases outcome : handler.branches.checkDroppedCall handler.stateData event.id with
        ⟨last, callData, branches⟩
      have remains := making.retracted present outcome
      cases last with
      | true => exact ⟨remains.assignNewState reading _ _ xmpp, .ends (Or.inl rfl)⟩
      | false => exact ⟨remains, .stays rfl⟩
    · exact drops
    · exact ⟨making, .stays rfl⟩
  case h_3 =>
    split_ifs
    · exact drops
    · exact ⟨making, .stays rfl⟩
    · exact ⟨making, .stays rfl⟩
  case h_4 => exact making.dropRequestOrReply reading event xmpp

end steps

/-! ### Whole histories -/

/-- The event that a move gives to the handler, if it gives one. -/
def Move.event? : Move → Option XmppEvent
  | .event _ given _ => some given
  | .check _ _ => none

/-- The move is an event that the handler accepts. -/
def Accepts (handler : CallHandler) : Move → Prop
  | .event reading event xmpp => (handler.isYourEvent reading event xmpp).1 = true
  | .check _ _ => False

/-- The moves leave the state of the handler as it is. -/
def Stays (moves : List Move) (handler : CallHandler) : Prop :=
  Along move (fun before next => (before.moved next).state = before.state) moves handler

/-- The handler takes these steps of the protocol, one after the other: each when it accepts an
event that meets the step. The moves before, between and after these leave its state as it is. -/
def Follows (setup : TString) : List Leg → List Move → CallHandler → Prop
  | [], moves, handler => Stays moves handler
  | leg :: rest, moves, handler => ∃ first next later middle event,
      moves = first ++ next :: later ∧ Stays first handler ∧
      run move first handler = some middle ∧ next.event? = some event ∧
      leg.MetBy setup event ∧ middle.Accepts next ∧ (middle.moved next).state = leg.state ∧
      Follows setup rest later (middle.moved next)

section histories

variable {setup : TString} {make : MakeCallData} {handler : CallHandler}

/-- A move that leaves the state as it is can come before the steps. -/
theorem Follows.cons {legs : List Leg} {next : Move} {moves : List Move}
    (same : (handler.moved next).state = handler.state)
    (follows : Follows setup legs moves (handler.moved next)) :
    Follows setup legs (next :: moves) handler := by
  have stays : ∀ {first : List Move}, Stays first (handler.moved next) →
      Stays (next :: first) handler := by
    intro first remaining
    refine ⟨same, fun other stepped => ?_⟩
    obtain rfl : handler.moved next = other := Option.some.inj stepped
    exact remaining
  cases legs with
  | nil => exact stays follows
  | cons leg rest =>
    obtain ⟨first, met, later, middle, event, rfl, staysFirst, reached, split⟩ := follows
    exact ⟨next :: first, met, later, middle, event, rfl, stays staysFirst,
      run_cons_eq_some.mpr ⟨_, rfl, reached⟩, split⟩

/-- What a move makes of the handler of the call -/
theorem Making.moved (making : handler.Making setup make)
    (printable : Strings.cStr setup = setup) (next : Move) :
    (handler.moved next).Making setup make ∧
      Goes setup make handler.state next.event? (handler.moved next).state := by
  cases next with
  | event reading event xmpp => exact making.isYourEvent printable reading event xmpp
  | check reading xmpp =>
    unfold CallHandler.moved
    rcases isStillExist_cases reading handler xmpp with same | ⟨-, lapsed⟩
    · simp only [same]
      exact ⟨making, .stays rfl⟩
    · simp only [lapsed]
      exact ⟨⟨making.kind, making.each.current, making.each.branch⟩, .ends (Or.inl rfl)⟩

/-- The event that takes the next step of the protocol has been accepted: a refusal would have
left the state as it was. -/
theorem accepts_of_legs {next : Move} {leg : Leg} {rest : List Leg} {event : XmppEvent}
    (isEvent : next.event? = some event) (before : legsFrom make handler.state = some (leg :: rest))
    (after : legsFrom make (handler.moved next).state = some rest) : handler.Accepts next := by
  cases next with
  | check reading xmpp => cases isEvent
  | event reading given xmpp =>
    show (handler.isYourEvent reading given xmpp).1 = true
    by_contra refused
    have unchanged := isYourEvent_refused (Bool.eq_false_iff.mpr refused)
    rw [CallHandler.moved, unchanged, before] at after
    have longer := congrArg List.length (Option.some.inj after)
    rw [List.length_cons] at longer
    omega

/-- A call that has been given up stays given up. -/
theorem Making.givenUp {moves : List Move} {last : CallHandler}
    (making : handler.Making setup make) (printable : Strings.cStr setup = setup)
    (ended : handler.state = .dropped ∨ handler.state = .preDropCall)
    (reached : run move moves handler = some last) :
    last.state = .dropped ∨ last.state = .preDropCall := by
  have preserved : ∀ (handler : CallHandler) next later, move handler next = some later →
      (handler.Making setup make ∧ (handler.state = .dropped ∨ handler.state = .preDropCall)) →
      later.Making setup make ∧ (later.state = .dropped ∨ later.state = .preDropCall) := by
    rintro handler next _ stepped ⟨making, ended⟩
    obtain rfl := Option.some.inj stepped
    obtain ⟨remains, goes⟩ := making.moved printable next
    refine ⟨remains, ?_⟩
    rcases goes with same | ends | ⟨leg, rest, event, -, before, -, -, -⟩
    · rw [same]
      exact ended
    · exact ends
    · rcases ended with dropped | dropping
      · rw [dropped] at before
        cases before
      · rw [dropping] at before
        cases before
  exact (run_invariant preserved reached ⟨making, ended⟩).2

/-- A call that ends up connected has taken the steps that were still to come. -/
theorem Making.follows {moves : List Move} {legs : List Leg} {last : CallHandler}
    (making : handler.Making setup make) (printable : Strings.cStr setup = setup)
    (begins : legsFrom make handler.state = some legs)
    (reached : run move moves handler = some last) (connected : last.state = .connected) :
    Follows setup legs moves handler := by
  induction moves generalizing handler legs with
  | nil =>
    obtain rfl : handler = last := Option.some.inj reached
    rw [connected] at begins
    obtain rfl := Option.some.inj begins
    exact trivial
  | cons next rest inductionHypothesis =>
    obtain ⟨_, stepped, remaining⟩ := run_cons_eq_some.mp reached
    obtain rfl := Option.some.inj stepped
    obtain ⟨remains, goes⟩ := making.moved printable next
    rcases goes with same | ends | ⟨leg, legsLeft, event, isEvent, before, met, arrives, after⟩
    · rw [← same] at begins
      exact Follows.cons same (inductionHypothesis remains begins remaining)
    · rcases remains.givenUp printable ends remaining with dropped | dropping
      · rw [connected] at dropped
        cases dropped
      · rw [connected] at dropping
        cases dropping
    · obtain rfl := Option.some.inj (before.symm.trans begins)
      exact ⟨[], next, rest, handler, event, rfl, trivial, rfl, isEvent, met,
        accepts_of_legs isEvent before after, arrives, inductionHypothesis remains after remaining⟩

end histories

/-- `PreExecute` of a new handler gives it the call setup id and the fields of its request. -/
theorem making_preExecute (created reading : Reading) (toDial : TString) (callId : Long)
    (xmpp : Xmpp) :
    ((newMakeCall created toDial callId).preExecute reading xmpp).2.1.Making
      (newCallSetupId reading)
      { contextId := xmpp.getUniqueId.1, outId := [],
        toSipField := Xmpp.toField (Strings.cStr toDial) xmpp.login.domain,
        fromSipField := Xmpp.fromField xmpp.login, inSipCallId := [], outSipCallId := [] } :=
  ⟨⟨_, rfl, rfl, rfl, rfl⟩, rfl, fun _ member => absurd member List.not_mem_nil⟩

/-- A call that the program makes is connected only through the whole protocol: whatever events
and checks its handler is given after `PreExecute`, when it is connected it has accepted the four
events in order, each of them has taken it one state further, and no other move has changed its
state. -/
theorem connected_follows (created reading : Reading) (toDial : TString) (callId : Long)
    (xmpp : Xmpp) {moves : List Move} {last : CallHandler}
    (reached : run move moves ((newMakeCall created toDial callId).preExecute reading xmpp).2.1 =
      some last)
    (connected : last.state = .connected) :
    ∃ make, ((newMakeCall created toDial callId).preExecute reading xmpp).2.1.kind =
        .makeCall make ∧
      ((newMakeCall created toDial callId).preExecute reading xmpp).2.1.state = .makeCallSet ∧
      Follows (newCallSetupId reading) (protocol make) moves
        ((newMakeCall created toDial callId).preExecute reading xmpp).2.1 ∧
      last.Making (newCallSetupId reading) make := by
  have making := making_preExecute created reading toDial callId xmpp
  have printable := cStr_newCallSetupId reading
  refine ⟨_, rfl, rfl, making.follows printable rfl reached connected, ?_⟩
  refine run_invariant ?_ reached making
  intro handler next _ stepped before
  obtain rfl := Option.some.inj stepped
  exact (before.moved printable next).1

/-- Both legs of a call to 123, with an event of the first leg that comes twice -/
theorem connected_follows_twoLegs :
    let secondLeg := fun (id : String) (dialogState : CallDialogState) =>
      let ace : ActiveCall :=
        { dialogState := dialogState
          sipCallid := "other".toList
          fromUri := "sip:ann@example.com".toList
          toUri := "sip:123@example.com".toList
          fromTag := "from".toList
          toTag := "to".toList
          branch := id.toList
          callSetupId := "00000000".toList }
      (⟨id.toList, false, 0, .activeCall ace⟩ : XmppEvent)
    let given := fun (tick : Nat) (event : XmppEvent) =>
      Move.event (Example.reading tick) event (Xmpp.new Example.login)
    let start := ((newMakeCall (Example.reading 0) "123".toList 1).preExecute (Example.reading 0)
      (Xmpp.new Example.login)).2.1
    let moves := [given 1 (Example.firstLeg "a" .requested), given 2 (Example.firstLeg "b" .requested),
      .check (Example.reading 3) (Xmpp.new Example.login),
      given 4 (Example.firstLeg "a" .confirmed), given 5 (secondLeg "c" .created),
      given 6 (secondLeg "c" .confirmed)]
    ∃ make, start.kind = .makeCall make ∧ start.state = .makeCallSet ∧
      Follows "00000000".toList (protocol make) moves start := by
  intro secondLeg given start moves
  obtain ⟨last, reached, connected⟩ :
      ∃ last, run move moves start = some last ∧ last.state = .connected := ⟨_, rfl, by decide⟩
  obtain ⟨make, kind, state, follows, -⟩ := connected_follows (Example.reading 0) (Example.reading 0)
    "123".toList 1 (Xmpp.new Example.login) reached connected
  have setup : newCallSetupId (Example.reading 0) = "00000000".toList := by decide
  rw [setup] at follows
  exact ⟨make, kind, state, follows⟩

end CallHandler

end JnTapi
