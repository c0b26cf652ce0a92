/-
This file describes where the handlers in the machine come from.

A handler is created by an unknown event, or by `MakeCallAsync` and then executed.
From there on it changes only in two ways: it is given an event and it is
checked. What holds of every created handler and is kept by these moves holds of
every handler of a reachable machine; in particular each of them has a history of
such moves.
-/

import JnTapi.Call.Coherent

namespace JnTapi

open Library

namespace CallHandler

/-! ### The moves of a handler -/

/-- One move of a handler: it is given an event, or checked. -/
inductive Move
  | event (reading : Reading) (event : XmppEvent) (xmpp : Xmpp)
  | check (reading : Reading) (xmpp : Xmpp)
deriving DecidableEq, Repr

/-- The handler after the move -/
def moved (handler : CallHandler) : Move → CallHandler
  | .event reading event xmpp => (handler.isYourEvent reading event xmpp).2.1
  | .check reading xmpp => (handler.isStillExist reading xmpp).2.1

/-- A move as a step of the handler. It is always enabled. -/
def move (handler : CallHandler) (next : Move) : Option CallHandler := some (handler.moved next)

/-- The handler as it enters the machine: created by an event, or executed after
`MakeCallAsync`. -/
def Created (handler : CallHandler) : Prop :=
  (∃ reading event ace callId, event.data = .activeCall ace ∧ ace.dialogState = .created ∧
    handler = newOutgoing reading event ace callId) ∨
  (∃ reading event ace callId, event.data = .activeCall ace ∧ ace.dialogState = .requested ∧
    handler = newIncoming reading event ace callId) ∨
  ∃ (new : CallHandler) (reading : Reading) (xmpp : Xmpp), new.IsNewMakeCall ∧
    handler = (new.preExecute reading xmpp).2.1

/-- The handler that an unknown event creates is a created one. -/
theorem created_unknownEvent {reading : Reading} {event : XmppEvent} {xmpp later : Xmpp}
    {handler : CallHandler} (unknown : unknownEvent reading event xmpp = (some handler, later)) :
    handler.Created := by
  unfold unknownEvent at unknown
  split at unknown
  · rename_i ace data
    split_ifs at unknown with created requested
    · obtain ⟨same, -⟩ := Prod.mk.injEq .. ▸ unknown
      exact Or.inl ⟨reading, event, ace, _, data, created, (Option.some.inj same).symm⟩
    · obtain ⟨same, -⟩ := Prod.mk.injEq .. ▸ unknown
      exact Or.inr (Or.inl ⟨reading, event, ace, _, data, requested, (Option.some.inj same).symm⟩)
    · cases unknown
  · cases unknown

/-- The handler has entered the machine and moved since. -/
def Lived (handler : CallHandler) : Prop :=
  ∃ start moves, Created start ∧ run move moves start = some handler

theorem Lived.moved {handler : CallHandler} (lived : handler.Lived) (next : Move) :
    (handler.moved next).Lived := by
  obtain ⟨start, moves, created, reached⟩ := lived
  refine ⟨start, moves ++ [next], created, ?_⟩
  rw [run_append_eq_some]
  exact ⟨handler, reached, rfl⟩

/-! ### What holds of every handler -/

section each

variable {holds : CallHandler → Prop}
  (moved : ∀ handler next, holds handler → holds (handler.moved next))

include moved

/-- The existence check moves or removes handlers. -/
theorem forall_checkStateHandlersExist (check : Nat → Reading) {handlers : List CallHandler}
    (xmpp : Xmpp) (each : ∀ handler ∈ handlers, holds handler) :
    ∀ handler ∈ (StateMachine.checkStateHandlersExist callVirtuals check handlers xmpp).1,
      holds handler := by
  have checked := checkStateHandlersExist_rule
    (fun done rest _ => ∀ handler ∈ done ++ rest, holds handler) ?stays ?lapses ?removed check
    handlers xmpp each
  · rw [List.append_nil] at checked
    exact checked
  case stays =>
    intro done handler rest object before alive
    rw [List.append_assoc, List.singleton_append]
    exact before
  case lapses =>
    intro done handler rest object reading before alive lapsed
    rw [List.append_assoc, List.singleton_append]
    have lapses := moved handler (.check reading object)
      (before handler (List.mem_append_right _ List.mem_cons_self))
    rw [CallHandler.moved, lapsed] at lapses
    intro other member
    rcases mem_replaced member with rfl | rest
    · exact lapses
    · exact before other (mem_original rest)
  case removed =>
    intro done handler rest object before dropped other member
    exact before other (mem_original member)

variable (created : ∀ handler, Created handler → holds handler)

include created

/-- An event moves the handler that accepts it, or creates one. -/
theorem forall_handleEvent (reading : Reading) (event : XmppEvent) (deleteEventData : Bool)
    {handlers : List CallHandler} (xmpp : Xmpp) (each : ∀ handler ∈ handlers, holds handler) :
    ∀ handler ∈ (StateMachine.handleEvent callVirtuals reading event deleteEventData handlers
      xmpp).2.1, holds handler := by
  rcases handleEvent_cases reading event deleteEventData handlers xmpp with
    ⟨before, handler, after, next, nextXmpp, rfl, -, accepts, result⟩ |
    ⟨-, handler, new, -, result⟩ | ⟨-, -, result⟩
  · rw [result]
    have accepted := moved handler (.event reading event xmpp)
      (each handler (List.mem_append_right _ List.mem_cons_self))
    rw [CallHandler.moved, accepts] at accepted
    intro other member
    rcases mem_replaced member with rfl | rest
    · exact accepted
    · exact each other (mem_original rest)
  · rw [result]
    intro other member
    rcases List.mem_append.mp member with earlier | last
    · exact each other earlier
    · rw [List.mem_singleton.mp last]
      exact created handler (created_unknownEvent new)
  · rw [result]
    exact each

theorem forall_signalEvent (readings : Readings) (event : XmppEvent) (deleteEventData : Bool)
    {handlers : List CallHandler} (xmpp : Xmpp) (each : ∀ handler ∈ handlers, holds handler) :
    ∀ handler ∈ (StateMachine.signalEvent callVirtuals readings event deleteEventData handlers
      xmpp).2.1, holds handler :=
  forall_checkStateHandlersExist moved readings.check _
    (forall_handleEvent moved created readings.offer event deleteEventData xmpp each)

/-- The handling of a request adds the handler that has been executed, once checked. -/
theorem forall_handleRequest (readings : StateMachineBase.RequestReadings)
    {request : CallHandler} (new : request.IsNewMakeCall) {handlers : List CallHandler}
    (xmpp : Xmpp) (each : ∀ handler ∈ handlers, holds handler) :
    ∀ handler ∈ (StateMachineBase.handleRequest callVirtuals readings request handlers xmpp).1,
      holds handler := by
  obtain ⟨executed, object, handler, later, execution, checked, -, -, result⟩ :=
    handleRequest_new readings new handlers xmpp
  have entered := created _ (Or.inr (Or.inr ⟨request, readings.preExecute, xmpp, new, rfl⟩))
  rw [execution] at entered
  have stays := moved executed (.check readings.check object) entered
  rw [CallHandler.moved, checked] at stays
  rw [result]
  intro other member
  rcases List.mem_append.mp member with earlier | last
  · exact each other earlier
  · rw [List.mem_singleton.mp last]
    exact stays

/-- What holds of every created handler and is kept by the moves is kept by the steps of the
system. -/
theorem forall_step {system next : CallSystem} {action : CallAction}
    (stepped : system.step action = some next) (requests : system.NewRequests)
    (each : ∀ handler ∈ system.stateHandlers, holds handler) :
    ∀ handler ∈ next.stateHandlers, holds handler := by
  cases action with
  | drawId =>
    obtain rfl := Option.some.inj stepped
    exact each
  | drawCallId phoneNumber =>
    obtain rfl := Option.some.inj stepped
    exact each
  | addCallHandler index reading =>
    obtain ⟨callId, phoneNumber, -, rfl⟩ := CallSystem.step_addCallHandler.mp stepped
    exact each
  | dropCallAsync callId =>
    obtain rfl := Option.some.inj stepped
    exact each
  | addEvent event =>
    obtain rfl := Option.some.inj stepped
    exact each
  | signalEvent readings event deleteEventData =>
    obtain ⟨-, rfl⟩ := CallSystem.step_signalEvent.mp stepped
    exact forall_signalEvent moved created readings event deleteEventData system.xmpp each
  | testRequests =>
    obtain ⟨-, rfl⟩ := CallSystem.step_testRequests.mp stepped
    exact each
  | takeRequests =>
    obtain ⟨-, rfl⟩ := CallSystem.step_takeRequests.mp stepped
    exact each
  | handleRequest readings =>
    obtain ⟨request, rest, pending, rfl⟩ := CallSystem.step_handleRequest.mp stepped
    refine forall_handleRequest moved created readings (requests request ?_) system.xmpp each
    rw [pending]
    exact List.mem_cons_self
  | testEvents =>
    obtain ⟨-, rfl⟩ := CallSystem.step_testEvents.mp stepped
    exact each
  | takeEvents =>
    obtain ⟨-, rfl⟩ := CallSystem.step_takeEvents.mp stepped
    exact each
  | signalNext readings =>
    obtain ⟨event, rest, -, rfl⟩ := CallSystem.step_signalNext.mp stepped
    exact forall_signalEvent moved created readings event true system.xmpp each
  | pollHandlers readings =>
    obtain ⟨-, rfl⟩ := CallSystem.step_pollHandlers.mp stepped
    show ∀ handler ∈ (StateMachine.pollStateHandlers callVirtuals readings system.stateHandlers
      system.xmpp).1, holds handler
    rw [pollStateHandlers_eq]
    exact forall_checkStateHandlersExist moved readings.check system.xmpp each
  | removeStateHandlers =>
    obtain ⟨-, rfl⟩ := CallSystem.step_removeStateHandlers.mp stepped
    exact fun _ member => absurd member List.not_mem_nil

/-- What holds of every created handler and is kept by the moves holds of every handler of a
reachable machine. -/
theorem forall_of_run {login : LoginInfo} {actions : List CallAction} {system : CallSystem}
    (reached : run CallSystem.step actions (CallSystem.new login) = some system) :
    ∀ handler ∈ system.stateHandlers, holds handler := by
  have preserved : ∀ (earlier : CallSystem) action next, CallSystem.step earlier action = some next →
      (earlier.NewRequests ∧ ∀ handler ∈ earlier.stateHandlers, holds handler) →
      next.NewRequests ∧ ∀ handler ∈ next.stateHandlers, holds handler := by
    intro earlier action next stepped before
    exact ⟨before.1.step stepped, forall_step moved created stepped before.1 before.2⟩
  exact (run_invariant preserved reached
    ⟨fun _ member => absurd member List.not_mem_nil,
      fun _ member => absurd member List.not_mem_nil⟩).2

end each

/-- Every handler of a reachable machine has a history. -/
theorem lived_of_run {login : LoginInfo} {actions : List CallAction} {system : CallSystem}
    (reached : run CallSystem.step actions (CallSystem.new login) = some system) :
    ∀ handler ∈ system.stateHandlers, handler.Lived :=
  forall_of_run (fun _ next lived => lived.moved next)
    (fun handler created => ⟨handler, [], created, rfl⟩) reached

/-! ### What the handlers are known by -/

/-- The handler enters the machine in the step: an event that all handlers refuse creates it, or it
is a request that is executed. -/
inductive Enters (system : CallSystem) : CallAction → CallHandler → Prop
  | unknown {action readings event deleteEventData handler later}
      (signals : system.signalOf action = some (readings, event, deleteEventData))
      (refused : ∀ other ∈ system.stateHandlers,
        (other.isYourEvent readings.offer event system.xmpp).1 = false)
      (creates : unknownEvent readings.offer event system.xmpp = (some handler, later)) :
      Enters system action handler
  | executed {readings request rest}
      (pending : system.polling = .handlingRequests (request :: rest))
      (new : request.IsNewMakeCall) :
      Enters system (.handleRequest readings)
        (request.preExecute readings.preExecute system.xmpp).2.1

section tags

variable {Tag : Type*} {holds : CallHandler → Prop} {tag : CallHandler → Option Tag}
  (kept : ∀ handler next, holds handler → tag (handler.moved next) = tag handler)

include kept

/-- The existence check removes tags at most. -/
theorem tags_checkStateHandlersExist (check : Nat → Reading) {handlers : List CallHandler}
    (xmpp : Xmpp) (each : ∀ handler ∈ handlers, holds handler) :
    (((StateMachine.checkStateHandlersExist callVirtuals check handlers xmpp).1).filterMap
      tag).Sublist (handlers.filterMap tag) := by
  have checked := checkStateHandlersExist_rule
    (fun done rest _ => ((done ++ rest).filterMap tag).Sublist (handlers.filterMap tag) ∧
      ∀ handler ∈ rest, holds handler)
    ?stays ?lapses ?removed check handlers xmpp ⟨List.Sublist.refl _, each⟩
  · rw [List.append_nil] at checked
    exact checked.1
  case stays =>
    intro done handler rest object before alive
    rw [List.append_assoc, List.singleton_append]
    exact ⟨before.1, fun other member => before.2 other (List.mem_cons_of_mem _ member)⟩
  case lapses =>
    intro done handler rest object reading before alive lapsed
    have same := kept handler (.check reading object) (before.2 handler List.mem_cons_self)
    rw [CallHandler.moved, lapsed] at same
    refine ⟨?_, fun other member => before.2 other (List.mem_cons_of_mem _ member)⟩
    have unchanged : (done ++ [handler.timedOut reading] ++ rest).filterMap tag =
        (done ++ handler :: rest).filterMap tag := by
      simp only [List.filterMap_append, List.filterMap_cons, List.filterMap_nil, same,
        List.append_assoc]
      cases tag handler <;> rfl
    rw [unchanged]
    exact before.1
  case removed =>
    intro done handler rest object before dropped
    have shorter : (done ++ rest).Sublist (done ++ handler :: rest) :=
      (List.Sublist.refl done).append (List.sublist_cons_self handler rest)
    exact ⟨(shorter.filterMap tag).trans before.1,
      fun other member => before.2 other (List.mem_cons_of_mem _ member)⟩

/-- A handler that is replaced by what a move makes of it keeps its tag. -/
theorem tags_replaced (before after : List CallHandler) {handler : CallHandler} (next : Move)
    (held : holds handler) : (before ++ handler.moved next :: after).filterMap tag =
      (before ++ handler :: after).filterMap tag := by
  simp only [List.filterMap_append, List.filterMap_cons, kept handler next held]

/-- The tags after a step are among those before and that of the handler that has entered. -/
theorem tags_step {system next : CallSystem} {action : CallAction}
    (stepped : system.step action = some next) (requests : system.NewRequests)
    (moved : ∀ handler next, holds handler → holds (handler.moved next))
    (created : ∀ handler, Created handler → holds handler)
    (each : ∀ handler ∈ system.stateHandlers, holds handler) :
    (next.stateHandlers.filterMap tag).Sublist (system.stateHandlers.filterMap tag) ∨
    ∃ entered, Enters system action entered ∧ (next.stateHandlers.filterMap tag).Sublist
      (system.stateHandlers.filterMap tag ++ (tag entered).toList) := by
  have signalled : ∀ {readings event deleteEventData},
      system.signalOf action = some (readings, event, deleteEventData) →
      next.stateHandlers = (StateMachine.checkStateHandlersExist callVirtuals readings.check
        (StateMachine.handleEvent callVirtuals readings.offer event deleteEventData
          system.stateHandlers system.xmpp).2.1
        (StateMachine.handleEvent callVirtuals readings.offer event deleteEventData
          system.stateHandlers system.xmpp).2.2).1 →
      (next.stateHandlers.filterMap tag).Sublist (system.stateHandlers.filterMap tag) ∨
      ∃ entered, Enters system action entered ∧ (next.stateHandlers.filterMap tag).Sublist
        (system.stateHandlers.filterMap tag ++ (tag entered).toList) := by
    intro readings event deleteEventData signals left
    have checked := tags_checkStateHandlersExist kept readings.check
      (StateMachine.handleEvent callVirtuals readings.offer event deleteEventData
        system.stateHandlers system.xmpp).2.2
      (forall_handleEvent moved created readings.offer event deleteEventData system.xmpp each)
    rw [← left] at checked
    rcases handleEvent_cases readings.offer event deleteEventData system.stateHandlers
      system.xmpp with
      ⟨before, handler, after, next, nextXmpp, split, -, accepts, result⟩ |
      ⟨refused, handler, creates, -, result⟩ | ⟨-, -, result⟩
    · left
      rw [result] at checked
      have replaced := tags_replaced kept before after (.event readings.offer event system.xmpp)
        (each handler (split ▸ List.mem_append_right _ List.mem_cons_self))
      rw [CallHandler.moved, accepts] at replaced
      rw [split, ← replaced]
      exact checked
    · right
      rw [result, List.filterMap_append] at checked
      refine ⟨handler, .unknown signals refused creates, checked.trans ?_⟩
      refine (List.Sublist.refl _).append ?_
      simp only [List.filterMap_cons, List.filterMap_nil]
      cases tag handler <;> exact List.Sublist.refl _
    · left
      rw [result] at checked
      exact checked
  cases action with
  | addCallHandler index reading =>
    obtain ⟨callId, phoneNumber, -, rfl⟩ := CallSystem.step_addCallHandler.mp stepped
    exact Or.inl (List.Sublist.refl _)
  | signalEvent readings event deleteEventData =>
    obtain ⟨-, rfl⟩ := CallSystem.step_signalEvent.mp stepped
    exact signalled rfl rfl
  | testRequests =>
    obtain ⟨-, rfl⟩ := CallSystem.step_testRequests.mp stepped
    exact Or.inl (List.Sublist.refl _)
  | takeRequests =>
    obtain ⟨-, rfl⟩ := CallSystem.step_takeRequests.mp stepped
    exact Or.inl (List.Sublist.refl _)
  | handleRequest readings =>
    obtain ⟨request, rest, pending, rfl⟩ := CallSystem.step_handleRequest.mp stepped
    have new : request.IsNewMakeCall := requests request (by
      rw [pending]
      exact List.mem_cons_self)
    right
    refine ⟨_, .executed pending new, ?_⟩
    obtain ⟨executed, object, handler, later, execution, checked, -, -, result⟩ :=
      handleRequest_new readings new system.stateHandlers system.xmpp
    have entered := created _ (Or.inr (Or.inr ⟨request, readings.preExecute, system.xmpp, new, rfl⟩))
    rw [execution] at entered
    have same := kept executed (.check readings.check object) entered
    rw [CallHandler.moved, checked] at same
    have added : (StateMachineBase.handleRequest callVirtuals readings request
        system.stateHandlers system.xmpp).1 = system.stateHandlers ++ [handler] := by
      rw [result]
    show ((StateMachineBase.handleRequest callVirtuals readings request system.stateHandlers
      system.xmpp).1.filterMap tag).Sublist _
    rw [added, execution, List.filterMap_append, ← same]
    refine (List.Sublist.refl _).append ?_
    simp only [List.filterMap_cons, List.filterMap_nil]
    cases tag handler <;> exact List.Sublist.refl _
  | testEvents =>
    obtain ⟨-, rfl⟩ := CallSystem.step_testEvents.mp stepped
    exact Or.inl (List.Sublist.refl _)
  | takeEvents =>
    obtain ⟨-, rfl⟩ := CallSystem.step_takeEvents.mp stepped
    exact Or.inl (List.Sublist.refl _)
  | signalNext readings =>
    obtain ⟨event, rest, pending, rfl⟩ := CallSystem.step_signalNext.mp stepped
    refine @signalled readings event true ?_ rfl
    rw [CallSystem.signalOf, pending]
  | pollHandlers readings =>
    obtain ⟨-, rfl⟩ := CallSystem.step_pollHandlers.mp stepped
    left
    show ((StateMachine.pollStateHandlers callVirtuals readings system.stateHandlers
      system.xmpp).1.filterMap tag).Sublist _
    rw [pollStateHandlers_eq]
    exact tags_checkStateHandlersExist kept readings.check system.xmpp each
  | removeStateHandlers =>
    obtain ⟨-, rfl⟩ := CallSystem.step_removeStateHandlers.mp stepped
    exact Or.inl (List.nil_sublist _)
  | _ =>
    obtain rfl := Option.some.inj stepped
    exact Or.inl (List.Sublist.refl _)

end tags

end CallHandler

end JnTapi
