/-
This file proves what every call of a state machine keeps, from what the virtual
functions keep.

The object changes only as the virtual functions change it. A handler is moved on
by its own methods only, and when an unknown event creates no handler, a call
never adds one except those that waited for it. What relates the handlers and the
object together is carried on when handlers may stand beside those that change.
-/

import Mathlib.Data.List.Forall2
import JnTapi.StateMachineBase

namespace JnTapi

variable {Handler Event Object : Type}

/-! ### What happens to the object -/

/-- Every virtual function changes the object in such a way. -/
structure Virtuals.Changes (virtuals : Virtuals Handler Event Object)
    (changes : Object → Object → Prop) : Prop where
  refl : ∀ object, changes object object
  trans : ∀ {first second third}, changes first second → changes second third →
    changes first third
  isYourEvent : ∀ reading handler event object,
    changes object (virtuals.isYourEvent reading handler event object).2.2
  isStillExist : ∀ reading handler object,
    changes object (virtuals.isStillExist reading handler object).2.2
  pollStateHandler : ∀ reading handler object,
    changes object (virtuals.pollStateHandler reading handler object).2.2
  unknownEvent : ∀ reading event object,
    changes object (virtuals.unknownEvent reading event object).2
  onStateChange : ∀ handler reason object,
    changes object (virtuals.onStateChange handler reason object)
  preExecute : ∀ reading handler object,
    changes object (virtuals.preExecute reading handler object).2.2
  deleteEvent : ∀ event object, changes object (virtuals.deleteEvent event object)
  deleteHandler : ∀ handler object, changes object (virtuals.deleteHandler handler object)

namespace Virtuals.Changes

variable {virtuals : Virtuals Handler Event Object} {changes : Object → Object → Prop}
  (frame : virtuals.Changes changes)

include frame

theorem checkStateHandlersExist (check : Nat → Reading) (handlers : List Handler)
    (object : Object) :
    changes object (StateMachine.checkStateHandlersExist virtuals check handlers object).2 := by
  induction handlers generalizing check object with
  | nil => exact frame.refl object
  | cons handler rest inductionHypothesis =>
    have checked := frame.isStillExist (check 0) handler object
    rw [StateMachine.checkStateHandlersExist]
    split
    case h_1 next nextObject exists_ =>
      rw [exists_] at checked
      exact frame.trans checked (inductionHypothesis _ nextObject)
    case h_2 next nextObject gone =>
      rw [gone] at checked
      refine frame.trans checked (frame.trans ?_ (inductionHypothesis _ _))
      exact frame.trans (frame.onStateChange next .removedHandler nextObject)
        (frame.deleteHandler next _)

theorem offer (reading : Reading) (event : Event) (handlers : List Handler) (object : Object) :
    changes object (StateMachine.offer virtuals reading event handlers object).2.2 := by
  induction handlers generalizing object with
  | nil => exact frame.refl object
  | cons handler rest inductionHypothesis =>
    have offered := frame.isYourEvent reading handler event object
    rw [StateMachine.offer]
    split
    case h_1 next nextObject accepts =>
      rw [accepts] at offered
      exact frame.trans offered (frame.onStateChange next .isYourEventHandled nextObject)
    case h_2 next nextObject refuses =>
      rw [refuses] at offered
      exact frame.trans offered (inductionHypothesis nextObject)

theorem handleEvent (reading : Reading) (event : Event) (deleteEventData : Bool)
    (handlers : List Handler) (object : Object) :
    changes object
      (StateMachine.handleEvent virtuals reading event deleteEventData handlers object).2.2 := by
  have offered := frame.offer reading event handlers object
  unfold StateMachine.handleEvent
  split
  case h_1 position next nextObject accepted =>
    rw [accepted] at offered
    exact offered
  case h_2 next nextObject refused =>
    rw [refused] at offered
    have unknown := frame.unknownEvent reading event nextObject
    split
    case h_1 handler later created =>
      rw [created] at unknown
      exact frame.trans offered
        (frame.trans unknown (frame.onStateChange handler .newHandlerCreated later))
    case h_2 later none =>
      rw [none] at unknown
      refine frame.trans offered (frame.trans unknown ?_)
      show changes later (if deleteEventData then virtuals.deleteEvent event later else later)
      split_ifs
      · exact frame.deleteEvent event later
      · exact frame.refl later

theorem signalEvent (readings : Readings) (event : Event) (deleteEventData : Bool)
    (handlers : List Handler) (object : Object) :
    changes object
      (StateMachine.signalEvent virtuals readings event deleteEventData handlers object).2.2 :=
  frame.trans (frame.handleEvent readings.offer event deleteEventData handlers object)
    (frame.checkStateHandlersExist readings.check _ _)

theorem pollUntilChange (poll : Nat → Reading) (handlers : List Handler) (object : Object) :
    changes object (StateMachine.pollUntilChange virtuals poll handlers object).2 := by
  induction handlers generalizing poll object with
  | nil => exact frame.refl object
  | cons handler rest inductionHypothesis =>
    have polled := frame.pollStateHandler (poll 0) handler object
    rw [StateMachine.pollUntilChange]
    split
    case h_1 next nextObject changed =>
      rw [changed] at polled
      exact frame.trans polled (frame.onStateChange next .pollHandler nextObject)
    case h_2 next nextObject unchanged =>
      rw [unchanged] at polled
      exact frame.trans polled (inductionHypothesis _ nextObject)

theorem pollStateHandlers (readings : Readings) (handlers : List Handler) (object : Object) :
    changes object (StateMachine.pollStateHandlers virtuals readings handlers object).2 :=
  frame.trans (frame.pollUntilChange readings.poll handlers object)
    (frame.checkStateHandlersExist readings.check _ _)

theorem removeStateHandlers (handlers : List Handler) (object : Object) :
    changes object (StateMachine.removeStateHandlers virtuals handlers object).2 := by
  show changes object
    (handlers.foldl (fun object handler => virtuals.deleteHandler handler object) object)
  induction handlers generalizing object with
  | nil => exact frame.refl object
  | cons handler rest inductionHypothesis =>
    exact frame.trans (frame.deleteHandler handler object) (inductionHypothesis _)

theorem addStateHandler (handler : Handler) (notifyState : Bool) (handlers : List Handler)
    (object : Object) : changes object
      (StateMachine.addStateHandler virtuals handler notifyState handlers object).2 := by
  show changes object
    (if notifyState then virtuals.onStateChange handler .addedHandler object else object)
  split_ifs
  · exact frame.onStateChange handler .addedHandler object
  · exact frame.refl object

theorem handleRequest (readings : StateMachineBase.RequestReadings) (request : Handler)
    (handlers : List Handler) (object : Object) :
    changes object
      (StateMachineBase.handleRequest virtuals readings request handlers object).2 := by
  have executed : changes object (if virtuals.hasPreExecute request
      then virtuals.preExecute readings.preExecute request object
      else (true, request, object)).2.2 := by
    split_ifs
    · exact frame.preExecute readings.preExecute request object
    · exact frame.refl object
  unfold StateMachineBase.handleRequest
  split
  case h_1 next nextObject failed =>
    rw [failed] at executed
    exact frame.trans executed (frame.deleteHandler next nextObject)
  case h_2 next nextObject done =>
    rw [done] at executed
    have checked := frame.isStillExist readings.check next nextObject
    split
    case h_1 added later exists_ =>
      rw [exists_] at checked
      exact frame.trans executed
        (frame.trans checked (frame.addStateHandler added _ handlers later))
    case h_2 gone later missing =>
      rw [missing] at checked
      exact frame.trans executed (frame.trans checked (frame.deleteHandler gone later))

theorem handleRequests (readings : Nat → StateMachineBase.RequestReadings)
    (requests handlers : List Handler) (object : Object) :
    changes object
      (StateMachineBase.handleRequests virtuals readings requests handlers object).2 := by
  induction requests generalizing readings handlers object with
  | nil => exact frame.refl object
  | cons request rest inductionHypothesis =>
    exact frame.trans (frame.handleRequest (readings 0) request handlers object)
      (inductionHypothesis _ _ _)

theorem signalEvents (readings : Nat → Readings) (events : List Event) (handlers : List Handler)
    (object : Object) :
    changes object
      (StateMachineBase.signalEvents virtuals readings events handlers object).2 := by
  induction events generalizing readings handlers object with
  | nil => exact frame.refl object
  | cons event rest inductionHypothesis =>
    exact frame.trans (frame.signalEvent (readings 0) event true handlers object)
      (inductionHypothesis _ _ _)

theorem pollMachine (readings : StateMachineBase.PollReadings)
    (machine : StateMachineBase Handler Event) (object : Object) :
    changes object (machine.pollStateHandlers virtuals readings object).2 := by
  have added := frame.handleRequests readings.requests machine.getRequests.1
    machine.stateHandlers object
  rw [StateMachineBase.pollStateHandlers_eq]
  exact frame.trans added (frame.trans
    (frame.signalEvents readings.events machine.getRequests.2.getEvents.1 _ _)
    (frame.pollStateHandlers readings.last _ _))

end Virtuals.Changes

/-! ### What happens to the handlers -/

/-- Every virtual function moves its handler on in such a way, and an unknown event creates no
handler. -/
structure Virtuals.Moves (virtuals : Virtuals Handler Event Object)
    (moves : Handler → Handler → Prop) : Prop where
  refl : ∀ handler, moves handler handler
  trans : ∀ {first second third}, moves first second → moves second third → moves first third
  isYourEvent : ∀ reading handler event object,
    moves handler (virtuals.isYourEvent reading handler event object).2.1
  isStillExist : ∀ reading handler object,
    moves handler (virtuals.isStillExist reading handler object).2.1
  pollStateHandler : ∀ reading handler object,
    moves handler (virtuals.pollStateHandler reading handler object).2.1
  unknownEvent : ∀ reading event object,
    (virtuals.unknownEvent reading event object).1 = none
  preExecute : ∀ reading handler object,
    moves handler (virtuals.preExecute reading handler object).2.1

/-- The handlers are some of those before, in the same order, each moved on. -/
def Descends (moves : Handler → Handler → Prop) (before after : List Handler) : Prop :=
  List.SublistForall₂ (fun now earlier => moves earlier now) after before

namespace Descends

variable {moves : Handler → Handler → Prop}

theorem length_le {before after : List Handler} (descends : Descends moves before after) :
    after.length ≤ before.length := by
  obtain ⟨kept, pairs, part⟩ := List.sublistForall₂_iff.mp descends
  rw [pairs.length_eq]
  exact part.length_le

theorem append {before after moreBefore moreAfter : List Handler}
    (first : Descends moves before after) (second : Descends moves moreBefore moreAfter) :
    Descends moves (before ++ moreBefore) (after ++ moreAfter) := by
  obtain ⟨kept, pairs, part⟩ := List.sublistForall₂_iff.mp first
  obtain ⟨moreKept, morePairs, morePart⟩ := List.sublistForall₂_iff.mp second
  exact List.sublistForall₂_iff.mpr
    ⟨kept ++ moreKept, List.rel_append pairs morePairs, part.append morePart⟩

/-- Each handler is one from before, moved on. -/
theorem exists_of_mem {before after : List Handler} (descends : Descends moves before after)
    {handler : Handler} (member : handler ∈ after) :
    ∃ earlier ∈ before, moves earlier handler := by
  induction descends with
  | nil => exact absurd member List.not_mem_nil
  | cons moved _ inductionHypothesis =>
    rcases List.mem_cons.mp member with rfl | rest
    · exact ⟨_, List.mem_cons_self, moved⟩
    · obtain ⟨earlier, inside, moved⟩ := inductionHypothesis rest
      exact ⟨earlier, List.mem_cons_of_mem _ inside, moved⟩
  | cons_right _ inductionHypothesis =>
    obtain ⟨earlier, inside, moved⟩ := inductionHypothesis member
    exact ⟨earlier, List.mem_cons_of_mem _ inside, moved⟩

end Descends

namespace Virtuals.Moves

variable {virtuals : Virtuals Handler Event Object} {moves : Handler → Handler → Prop}
  (frame : virtuals.Moves moves)

include frame

theorem descends_refl (handlers : List Handler) : Descends moves handlers handlers :=
  List.sublistForall₂_iff.mpr
    ⟨handlers, List.forall₂_same.mpr fun handler _ => frame.refl handler, List.Sublist.refl _⟩

theorem descends_trans {first second third : List Handler} (left : Descends moves first second)
    (right : Descends moves second third) : Descends moves first third := by
  have transitive : IsTrans Handler (fun now earlier => moves earlier now) :=
    ⟨fun _ _ _ late early => frame.trans early late⟩
  exact List.SublistForall₂.is_trans.trans _ _ _ right left

theorem checkStateHandlersExist (check : Nat → Reading) (handlers : List Handler)
    (object : Object) : Descends moves handlers
      (StateMachine.checkStateHandlersExist virtuals check handlers object).1 := by
  induction handlers generalizing check object with
  | nil => exact .nil
  | cons handler rest inductionHypothesis =>
    have checked := frame.isStillExist (check 0) handler object
    rw [StateMachine.checkStateHandlersExist]
    split
    case h_1 next nextObject exists_ =>
      rw [exists_] at checked
      exact .cons checked (inductionHypothesis _ nextObject)
    case h_2 next nextObject gone => exact .cons_right (inductionHypothesis _ _)

theorem offer (reading : Reading) (event : Event) (handlers : List Handler) (object : Object) :
    Descends moves handlers (StateMachine.offer virtuals reading event handlers object).2.1 := by
  induction handlers generalizing object with
  | nil => exact .nil
  | cons handler rest inductionHypothesis =>
    have offered := frame.isYourEvent reading handler event object
    rw [StateMachine.offer]
    split
    case h_1 next nextObject accepts =>
      rw [accepts] at offered
      exact .cons offered (frame.descends_refl rest)
    case h_2 next nextObject refuses =>
      rw [refuses] at offered
      exact .cons offered (inductionHypothesis nextObject)

theorem handleEvent (reading : Reading) (event : Event) (deleteEventData : Bool)
    (handlers : List Handler) (object : Object) : Descends moves handlers
      (StateMachine.handleEvent virtuals reading event deleteEventData handlers object).2.1 := by
  have offered := frame.offer reading event handlers object
  unfold StateMachine.handleEvent
  split
  case h_1 position next nextObject accepted =>
    rw [accepted] at offered
    exact offered
  case h_2 next nextObject refused =>
    rw [refused] at offered
    have unknown := frame.unknownEvent reading event nextObject
    split
    case h_1 handler later created =>
      rw [created] at unknown
      cases unknown
    case h_2 later none => exact offered

theorem signalEvent (readings : Readings) (event : Event) (deleteEventData : Bool)
    (handlers : List Handler) (object : Object) : Descends moves handlers
      (StateMachine.signalEvent virtuals readings event deleteEventData handlers object).2.1 :=
  frame.descends_trans (frame.handleEvent readings.offer event deleteEventData handlers object)
    (frame.checkStateHandlersExist readings.check _ _)

theorem pollUntilChange (poll : Nat → Reading) (handlers : List Handler) (object : Object) :
    Descends moves handlers (StateMachine.pollUntilChange virtuals poll handlers object).1 := by
  induction handlers generalizing poll object with
  | nil => exact .nil
  | cons handler rest inductionHypothesis =>
    have polled := frame.pollStateHandler (poll 0) handler object
    rw [StateMachine.pollUntilChange]
    split
    case h_1 next nextObject changed =>
      rw [changed] at polled
      exact .cons polled (frame.descends_refl rest)
    case h_2 next nextObject unchanged =>
      rw [unchanged] at polled
      exact .cons polled (inductionHypothesis _ nextObject)

theorem pollStateHandlers (readings : Readings) (handlers : List Handler) (object : Object) :
    Descends moves handlers
      (StateMachine.pollStateHandlers virtuals readings handlers object).1 :=
  frame.descends_trans (frame.pollUntilChange readings.poll handlers object)
    (frame.checkStateHandlersExist readings.check _ _)

theorem handleRequest (readings : StateMachineBase.RequestReadings) (request : Handler)
    (handlers : List Handler) (object : Object) : Descends moves (handlers ++ [request])
      (StateMachineBase.handleRequest virtuals readings request handlers object).1 := by
  have dropped : Descends moves (handlers ++ [request]) handlers := by
    have none : Descends moves [request] [] := .nil
    have parts := (frame.descends_refl handlers).append none
    rw [List.append_nil] at parts
    exact parts
  have executed : moves request (if virtuals.hasPreExecute request
      then virtuals.preExecute readings.preExecute request object
      else (true, request, object)).2.1 := by
    split_ifs
    · exact frame.preExecute readings.preExecute request object
    · exact frame.refl request
  unfold StateMachineBase.handleRequest
  split
  case h_1 next nextObject failed => exact dropped
  case h_2 next nextObject done =>
    rw [done] at executed
    have checked := frame.isStillExist readings.check next nextObject
    split
    case h_1 added later exists_ =>
      rw [exists_] at checked
      have moved := frame.trans executed checked
      exact (frame.descends_refl handlers).append (.cons moved .nil)
    case h_2 gone later missing => exact dropped

theorem handleRequests (readings : Nat → StateMachineBase.RequestReadings)
    (requests handlers : List Handler) (object : Object) :
    Descends moves (handlers ++ requests)
      (StateMachineBase.handleRequests virtuals readings requests handlers object).1 := by
  induction requests generalizing readings handlers object with
  | nil =>
    rw [List.append_nil]
    exact frame.descends_refl handlers
  | cons request rest inductionHypothesis =>
    have descends := frame.handleRequest (readings 0) request handlers object
    have parts := descends.append (frame.descends_refl rest)
    rw [List.append_assoc, List.singleton_append] at parts
    exact frame.descends_trans parts (inductionHypothesis _ _ _)

theorem signalEvents (readings : Nat → Readings) (events : List Event) (handlers : List Handler)
    (object : Object) : Descends moves handlers
      (StateMachineBase.signalEvents virtuals readings events handlers object).1 := by
  induction events generalizing readings handlers object with
  | nil => exact frame.descends_refl handlers
  | cons event rest inductionHypothesis =>
    exact frame.descends_trans (frame.signalEvent (readings 0) event true handlers object)
      (inductionHypothesis _ _ _)

/-- A poll moves the handlers in the machine on, and those that wait for it. -/
theorem pollMachine (readings : StateMachineBase.PollReadings)
    (machine : StateMachineBase Handler Event) (object : Object) :
    Descends moves (machine.stateHandlers ++ machine.handlerRequests)
      ((machine.pollStateHandlers virtuals readings object).1.stateHandlers ++
        (machine.pollStateHandlers virtuals readings object).1.handlerRequests) := by
  have added := frame.handleRequests readings.requests machine.getRequests.1
    machine.stateHandlers object
  have listed : Descends moves (machine.stateHandlers ++ machine.getRequests.1)
      (machine.pollStateHandlers virtuals readings object).1.stateHandlers := by
    rw [StateMachineBase.pollStateHandlers_eq]
    exact frame.descends_trans added (frame.descends_trans
      (frame.signalEvents readings.events machine.getRequests.2.getEvents.1 _ _)
      (frame.pollStateHandlers readings.last _ _))
  have parts := listed.append (frame.descends_refl machine.getRequests.2.handlerRequests)
  rw [List.append_assoc, machine.getRequests_append] at parts
  rw [StateMachineBase.pollStateHandlers_eq] at parts ⊢
  rw [StateMachineBase.handlerRequests_getEvents]
  exact parts

end Virtuals.Moves

/-! ### What happens to the handlers and the object together -/

/-- Every virtual function carries its handler and the object on in such a way, and handlers may
stand beside. -/
structure Virtuals.Carries (virtuals : Virtuals Handler Event Object)
    (carries : List Handler × Object → List Handler × Object → Prop) : Prop where
  refl : ∀ pair, carries pair pair
  trans : ∀ {first second third}, carries first second → carries second third →
    carries first third
  beside : ∀ {before after : List Handler} {object later : Object} (left right : List Handler),
    carries (before, object) (after, later) →
    carries (left ++ before ++ right, object) (left ++ after ++ right, later)
  isYourEvent : ∀ reading handler event object,
    carries ([handler], object) ([(virtuals.isYourEvent reading handler event object).2.1],
      (virtuals.isYourEvent reading handler event object).2.2)
  isStillExist : ∀ reading handler object,
    carries ([handler], object) ([(virtuals.isStillExist reading handler object).2.1],
      (virtuals.isStillExist reading handler object).2.2)
  pollStateHandler : ∀ reading handler object,
    carries ([handler], object) ([(virtuals.pollStateHandler reading handler object).2.1],
      (virtuals.pollStateHandler reading handler object).2.2)
  unknownEvent : ∀ reading event object,
    carries ([], object) ((virtuals.unknownEvent reading event object).1.toList,
      (virtuals.unknownEvent reading event object).2)
  onStateChange : ∀ handler reason object,
    carries ([], object) ([], virtuals.onStateChange handler reason object)
  preExecute : ∀ reading handler object,
    carries ([handler], object) ([(virtuals.preExecute reading handler object).2.1],
      (virtuals.preExecute reading handler object).2.2)
  deleteEvent : ∀ event object, carries ([], object) ([], virtuals.deleteEvent event object)
  deleteHandler : ∀ handler object,
    carries ([handler], object) ([], virtuals.deleteHandler handler object)

namespace Virtuals.Carries

variable {virtuals : Virtuals Handler Event Object}
  {carries : List Handler × Object → List Handler × Object → Prop}
  (frame : virtuals.Carries carries)

include frame

/-- The object alone changes. -/
theorem object {before after : Object} (changed : carries ([], before) ([], after))
    (handlers : List Handler) : carries (handlers, before) (handlers, after) := by
  have beside := frame.beside handlers [] changed
  rw [List.append_nil, List.append_nil] at beside
  exact beside

/-- The handlers at the front change. -/
theorem front {before after : List Handler} {object later : Object}
    (changed : carries (before, object) (after, later)) (rest : List Handler) :
    carries (before ++ rest, object) (after ++ rest, later) :=
  frame.beside [] rest changed

/-- The first handler changes. -/
theorem head {handler : Handler} {after : List Handler} {before later : Object}
    (changed : carries ([handler], before) (after, later)) (rest : List Handler) :
    carries (handler :: rest, before) (after ++ rest, later) :=
  frame.front changed rest

/-- The handlers after the first change. -/
theorem tail {rest after : List Handler} {before later : Object}
    (changed : carries (rest, before) (after, later)) (handler : Handler) :
    carries (handler :: rest, before) (handler :: after, later) := by
  have beside := frame.beside [handler] [] changed
  rw [List.append_nil, List.append_nil] at beside
  exact beside

theorem checkStateHandlersExist (check : Nat → Reading) (handlers : List Handler)
    (object : Object) : carries (handlers, object)
      (StateMachine.checkStateHandlersExist virtuals check handlers object) := by
  induction handlers generalizing check object with
  | nil => exact frame.refl _
  | cons handler rest inductionHypothesis =>
    have checked := frame.head (frame.isStillExist (check 0) handler object) rest
    rw [StateMachine.checkStateHandlersExist]
    split
    case h_1 next nextObject exists_ =>
      rw [exists_] at checked
      exact frame.trans checked (frame.tail (inductionHypothesis _ nextObject) next)
    case h_2 next nextObject gone =>
      rw [gone] at checked
      refine frame.trans checked (frame.trans ?_ (inductionHypothesis _ _))
      exact frame.trans (frame.object (frame.onStateChange next .removedHandler nextObject) _)
        (frame.head (frame.deleteHandler next _) rest)

theorem offer (reading : Reading) (event : Event) (handlers : List Handler) (object : Object) :
    carries (handlers, object) (StateMachine.offer virtuals reading event handlers object).2 := by
  induction handlers generalizing object with
  | nil => exact frame.refl _
  | cons handler rest inductionHypothesis =>
    have offered := frame.head (frame.isYourEvent reading handler event object) rest
    rw [StateMachine.offer]
    split
    case h_1 next nextObject accepts =>
      rw [accepts] at offered
      exact frame.trans offered
        (frame.object (frame.onStateChange next .isYourEventHandled nextObject) _)
    case h_2 next nextObject refuses =>
      rw [refuses] at offered
      exact frame.trans offered (frame.tail (inductionHypothesis nextObject) next)

theorem handleEvent (reading : Reading) (event : Event) (deleteEventData : Bool)
    (handlers : List Handler) (object : Object) : carries (handlers, object)
      (StateMachine.handleEvent virtuals reading event deleteEventData handlers object).2 := by
  have offered := frame.offer reading event handlers object
  unfold StateMachine.handleEvent
  split
  case h_1 position next nextObject accepted =>
    rw [accepted] at offered
    exact offered
  case h_2 next nextObject refused =>
    rw [refused] at offered
    have unknown := frame.beside next [] (frame.unknownEvent reading event nextObject)
    split
    case h_1 handler later created =>
      rw [created] at unknown
      simp only [List.append_nil, Option.toList_some] at unknown
      exact frame.trans offered (frame.trans unknown
        (frame.object (frame.onStateChange handler .newHandlerCreated later) _))
    case h_2 later none =>
      rw [none] at unknown
      simp only [List.append_nil, Option.toList_none] at unknown
      refine frame.trans offered (frame.trans unknown ?_)
      show carries (next, later)
        (next, if deleteEventData then virtuals.deleteEvent event later else later)
      split_ifs
      · exact frame.object (frame.deleteEvent event later) next
      · exact frame.refl _

theorem signalEvent (readings : Readings) (event : Event) (deleteEventData : Bool)
    (handlers : List Handler) (object : Object) : carries (handlers, object)
      (StateMachine.signalEvent virtuals readings event deleteEventData handlers object).2 :=
  frame.trans (frame.handleEvent readings.offer event deleteEventData handlers object)
    (frame.checkStateHandlersExist readings.check _ _)

theorem pollUntilChange (poll : Nat → Reading) (handlers : List Handler) (object : Object) :
    carries (handlers, object) (StateMachine.pollUntilChange virtuals poll handlers object) := by
  induction handlers generalizing poll object with
  | nil => exact frame.refl _
  | cons handler rest inductionHypothesis =>
    have polled := frame.head (frame.pollStateHandler (poll 0) handler object) rest
    rw [StateMachine.pollUntilChange]
    split
    case h_1 next nextObject changed =>
      rw [changed] at polled
      exact frame.trans polled (frame.object (frame.onStateChange next .pollHandler nextObject) _)
    case h_2 next nextObject unchanged =>
      rw [unchanged] at polled
      exact frame.trans polled (frame.tail (inductionHypothesis _ nextObject) next)

theorem pollStateHandlers (readings : Readings) (handlers : List Handler) (object : Object) :
    carries (handlers, object)
      (StateMachine.pollStateHandlers virtuals readings handlers object) :=
  frame.trans (frame.pollUntilChange readings.poll handlers object)
    (frame.checkStateHandlersExist readings.check _ _)

theorem removeStateHandlers (handlers : List Handler) (object : Object) :
    carries (handlers, object)
      (StateMachine.removeStateHandlers virtuals handlers object) := by
  show carries (handlers, object)
    ([], handlers.foldl (fun object handler => virtuals.deleteHandler handler object) object)
  induction handlers generalizing object with
  | nil => exact frame.refl _
  | cons handler rest inductionHypothesis =>
    exact frame.trans (frame.head (frame.deleteHandler handler object) rest)
      (inductionHypothesis _)

/-- A request is added, or deleted. -/
theorem handleRequest (readings : StateMachineBase.RequestReadings) (request : Handler)
    (handlers : List Handler) (object : Object) : carries (handlers ++ [request], object)
      (StateMachineBase.handleRequest virtuals readings request handlers object) := by
  have last : ∀ {before : Handler} {after : List Handler} {object later : Object},
      carries ([before], object) (after, later) →
      carries (handlers ++ [before], object) (handlers ++ after, later) := by
    intro before after object later changed
    have beside := frame.beside handlers [] changed
    rw [List.append_nil, List.append_nil] at beside
    exact beside
  have executed : carries (handlers ++ [request], object)
      (handlers ++ [(if virtuals.hasPreExecute request
        then virtuals.preExecute readings.preExecute request object
        else (true, request, object)).2.1], (if virtuals.hasPreExecute request
        then virtuals.preExecute readings.preExecute request object
        else (true, request, object)).2.2) := by
    split_ifs
    · exact last (frame.preExecute readings.preExecute request object)
    · exact frame.refl _
  have deleted : ∀ (handler : Handler) (object : Object), carries (handlers ++ [handler], object)
      (handlers, virtuals.deleteHandler handler object) := by
    intro handler object
    have gone := last (frame.deleteHandler handler object)
    rw [List.append_nil] at gone
    exact gone
  unfold StateMachineBase.handleRequest
  split
  case h_1 next nextObject failed =>
    rw [failed] at executed
    exact frame.trans executed (deleted next nextObject)
  case h_2 next nextObject done =>
    rw [done] at executed
    have checked := last (frame.isStillExist readings.check next nextObject)
    split
    case h_1 added later exists_ =>
      rw [exists_] at checked
      refine frame.trans executed (frame.trans checked ?_)
      unfold StateMachine.addStateHandler
      dsimp only
      split_ifs
      · exact frame.object (frame.onStateChange added .addedHandler later) _
      · exact frame.refl _
    case h_2 gone later missing =>
      rw [missing] at checked
      exact frame.trans executed (frame.trans checked (deleted gone later))

theorem handleRequests (readings : Nat → StateMachineBase.RequestReadings)
    (requests handlers : List Handler) (object : Object) : carries (handlers ++ requests, object)
      (StateMachineBase.handleRequests virtuals readings requests handlers object) := by
  induction requests generalizing readings handlers object with
  | nil =>
    rw [List.append_nil]
    exact frame.refl _
  | cons request rest inductionHypothesis =>
    have first := frame.beside [] rest (frame.handleRequest (readings 0) request handlers object)
    rw [List.nil_append, List.append_assoc, List.singleton_append, List.nil_append] at first
    exact frame.trans first (inductionHypothesis _ _ _)

theorem signalEvents (readings : Nat → Readings) (events : List Event) (handlers : List Handler)
    (object : Object) : carries (handlers, object)
      (StateMachineBase.signalEvents virtuals readings events handlers object) := by
  induction events generalizing readings handlers object with
  | nil => exact frame.refl _
  | cons event rest inductionHypothesis =>
    exact frame.trans (frame.signalEvent (readings 0) event true handlers object)
      (inductionHypothesis _ _ _)

/-- A poll carries on the handlers in the machine and those that wait for it. -/
theorem pollMachine (readings : StateMachineBase.PollReadings)
    (machine : StateMachineBase Handler Event) (object : Object) :
    carries (machine.stateHandlers ++ machine.handlerRequests, object)
      ((machine.pollStateHandlers virtuals readings object).1.stateHandlers ++
        (machine.pollStateHandlers virtuals readings object).1.handlerRequests,
        (machine.pollStateHandlers virtuals readings object).2) := by
  have added := frame.handleRequests readings.requests machine.getRequests.1
    machine.stateHandlers object
  have polled := frame.trans added (frame.trans
    (frame.signalEvents readings.events machine.getRequests.2.getEvents.1 _ _)
    (frame.pollStateHandlers readings.last _ _))
  have parts := frame.beside [] machine.getRequests.2.handlerRequests polled
  rw [List.nil_append, List.append_assoc, machine.getRequests_append, List.nil_append] at parts
  rw [StateMachineBase.pollStateHandlers_eq]
  dsimp only
  rw [StateMachineBase.handlerRequests_getEvents]
  exact parts

/-- Two things may be carried at once. -/
theorem and {other : List Handler × Object → List Handler × Object → Prop}
    (second : virtuals.Carries other) :
    virtuals.Carries fun before after => carries before after ∧ other before after where
  refl pair := ⟨frame.refl pair, second.refl pair⟩
  trans left right := ⟨frame.trans left.1 right.1, second.trans left.2 right.2⟩
  beside left right both := ⟨frame.beside left right both.1, second.beside left right both.2⟩
  isYourEvent reading handler event object :=
    ⟨frame.isYourEvent reading handler event object, second.isYourEvent reading handler event object⟩
  isStillExist reading handler object :=
    ⟨frame.isStillExist reading handler object, second.isStillExist reading handler object⟩
  pollStateHandler reading handler object :=
    ⟨frame.pollStateHandler reading handler object, second.pollStateHandler reading handler object⟩
  unknownEvent reading event object :=
    ⟨frame.unknownEvent reading event object, second.unknownEvent reading event object⟩
  onStateChange handler reason object :=
    ⟨frame.onStateChange handler reason object, second.onStateChange handler reason object⟩
  preExecute reading handler object :=
    ⟨frame.preExecute reading handler object, second.preExecute reading handler object⟩
  deleteEvent event object := ⟨frame.deleteEvent event object, second.deleteEvent event object⟩
  deleteHandler handler object :=
    ⟨frame.deleteHandler handler object, second.deleteHandler handler object⟩

end Virtuals.Carries

/-- What happens to the object alone is carried on, whatever the handlers are. -/
theorem Virtuals.Changes.carries {virtuals : Virtuals Handler Event Object}
    {changes : Object → Object → Prop} (frame : virtuals.Changes changes) :
    virtuals.Carries fun before after => changes before.2 after.2 where
  refl pair := frame.refl pair.2
  trans := frame.trans
  beside _ _ changed := changed
  isYourEvent := frame.isYourEvent
  isStillExist := frame.isStillExist
  pollStateHandler := frame.pollStateHandler
  unknownEvent := frame.unknownEvent
  onStateChange := frame.onStateChange
  preExecute := frame.preExecute
  deleteEvent := frame.deleteEvent
  deleteHandler := frame.deleteHandler

/-- What every method keeps of its handler, and what new handlers have, the machine keeps of all of
its handlers. -/
theorem Virtuals.carries_forall {virtuals : Virtuals Handler Event Object} {holds : Handler → Prop}
    (isYourEvent : ∀ reading handler event object, holds handler →
      holds (virtuals.isYourEvent reading handler event object).2.1)
    (isStillExist : ∀ reading handler object, holds handler →
      holds (virtuals.isStillExist reading handler object).2.1)
    (pollStateHandler : ∀ reading handler object, holds handler →
      holds (virtuals.pollStateHandler reading handler object).2.1)
    (unknownEvent : ∀ reading event object,
      ∀ handler ∈ (virtuals.unknownEvent reading event object).1, holds handler)
    (preExecute : ∀ reading handler object, holds handler →
      holds (virtuals.preExecute reading handler object).2.1) :
    virtuals.Carries fun before after =>
      (∀ handler ∈ before.1, holds handler) → ∀ handler ∈ after.1, holds handler where
  refl _ each := each
  trans left right each := right (left each)
  beside left right carried each handler member := by
    rw [List.mem_append, List.mem_append] at member
    have inside : ∀ other, other ∈ left ∨ other ∈ right → holds other := by
      intro other side
      refine each other ?_
      rw [List.mem_append, List.mem_append]
      rcases side with first | last
      · exact Or.inl (Or.inl first)
      · exact Or.inr last
    rcases member with (first | middle) | last
    · exact inside handler (Or.inl first)
    · refine carried (fun other between => each other ?_) handler middle
      exact List.mem_append_left _ (List.mem_append_right _ between)
    · exact inside handler (Or.inr last)
  isYourEvent reading handler event object each other member :=
    List.mem_singleton.mp member ▸
      isYourEvent reading handler event object (each handler List.mem_cons_self)
  isStillExist reading handler object each other member :=
    List.mem_singleton.mp member ▸
      isStillExist reading handler object (each handler List.mem_cons_self)
  pollStateHandler reading handler object each other member :=
    List.mem_singleton.mp member ▸
      pollStateHandler reading handler object (each handler List.mem_cons_self)
  unknownEvent reading event object _ other member :=
    unknownEvent reading event object other (Option.mem_toList.mp member)
  onStateChange _ _ _ each := each
  preExecute reading handler object each other member :=
    List.mem_singleton.mp member ▸
      preExecute reading handler object (each handler List.mem_cons_self)
  deleteEvent _ _ each := each
  deleteHandler _ _ _ other member := absurd member List.not_mem_nil

end JnTapi
