/-
This file proves what becomes of the items of a notification of active calls.

Each item stands for one event: the end of a branch, or the state of a call. Both
factories check that the notification has a single item, so the events of one that
has several are lost, and the handlers of their calls stay as they are.
-/

import JnTapi.OnSipXmpp

namespace JnTapi

open XmppEventFactory

/-! ### The events of the items -/

namespace Message

/-- The message is a notification of items of active calls. -/
structure Notifies (msg : Message) (items : List ItemOperation) : Prop where
  event : msg.pubSubEvent = some ⟨.items, items⟩
  sender : msg.sender = onsipPubSubActiveCalls

/-- The events of all items, in their order -/
def eventsOfItems (msg : Message) (items : List ItemOperation) : List XmppEvent :=
  items.filterMap (ItemOperation.event msg.hasError)

/-- The item of a notification that has exactly one -/
def only : List ItemOperation → Option ItemOperation
  | [item] => some item
  | _ => none

/-- The event of the item of a notification that has exactly one -/
def eventsOfOnlyItem (msg : Message) (items : List ItemOperation) : List XmppEvent :=
  ((only items).bind (ItemOperation.event msg.hasError)).toList

theorem Notifies.onlyItem {msg : Message} {items : List ItemOperation}
    (notifies : msg.Notifies items) : XmppEventFactory.onlyItem msg = only items := by
  rw [XmppEventFactory.onlyItem, notifies.event]
  rcases items with _ | ⟨item, _ | ⟨second, rest⟩⟩
  · rfl
  · exact if_pos ⟨rfl, notifies.sender⟩
  · rfl

/-- The factory makes at most one event of a notification: that of the only item. -/
theorem Notifies.msgFactory {msg : Message} {items : List ItemOperation}
    (notifies : msg.Notifies items) (subscribed : msg.subscribed = none)
    (hasTag : ¬ ReadsNullTag msg) :
    Option.toList <$> XmppEventFactory.msgFactory msg = .ok (msg.eventsOfOnlyItem items) := by
  have notSubscribed : checkSubscribed msg = none := by
    rw [checkSubscribed, subscribed, Option.map_none]
  rw [msgFactory_eq notSubscribed, eventsOfOnlyItem, ← notifies.onlyItem]
  cases stands : (XmppEventFactory.onlyItem msg).bind (ItemOperation.event msg.hasError) with
  | none => rfl
  | some event =>
    obtain ⟨item, only, made⟩ := Option.bind_eq_some_iff.mp stands
    dsimp only
    rw [if_neg fun null => hasTag ⟨subscribed, null, item, only, by rw [made]; rfl⟩]
    rfl

end Message

namespace OnSipXmpp

/-- Events that are signalled one after the other -/
def signalEach (initReadings callReadings : Readings) (events : List XmppEvent)
    (object : OnSipXmpp) : OnSipXmpp :=
  events.foldl (fun object event => object.signalEvent initReadings callReadings event) object

/-- A message is handled by signalling what the factory makes of it. -/
theorem handleMessage_eq_signalEach (initReadings callReadings : Readings) (msg : Message)
    (object : OnSipXmpp) :
    object.handleMessage initReadings callReadings msg =
      (fun events => object.signalEach initReadings callReadings events) <$>
        (Option.toList <$> msgFactory msg) := by
  unfold handleMessage
  rcases msgFactory msg with read | _ | event <;> rfl

/-- A notification of one item is signalled as the event of the item, and one of no or of several
items as nothing. -/
theorem handleMessage_items {msg : Message} {items : List ItemOperation}
    (notifies : msg.Notifies items) (subscribed : msg.subscribed = none)
    (hasTag : ¬ ReadsNullTag msg) :
    Option.toList <$> msgFactory msg = .ok (msg.eventsOfOnlyItem items) ∧
      ∀ (initReadings callReadings : Readings) (object : OnSipXmpp),
        object.handleMessage initReadings callReadings msg =
          .ok (object.signalEach initReadings callReadings (msg.eventsOfOnlyItem items)) := by
  have made := notifies.msgFactory subscribed hasTag
  refine ⟨made, ?_⟩
  intro initReadings callReadings object
  rw [handleMessage_eq_signalEach, made]
  rfl

end OnSipXmpp

namespace Example

/-- An item that marks the end of the branch with the id -/
def retractItem (id : String) : ItemOperation := ⟨true, id.toList, none⟩

/-- A notification of the items by the service -/
def notice (items : List ItemOperation) : Message :=
  ⟨.normal, [], onsipPubSubActiveCalls, false, none, some ⟨.items, items⟩⟩

theorem notice_notifies (items : List ItemOperation) : (notice items).Notifies items := ⟨rfl, rfl⟩

/-- Two branches of an incoming call ring. -/
def twoRing : OnSipXmpp :=
  (OnSipXmpp.new (reading 0)).signalEach (readings 10) (readings 10)
    [activeCall "one" "call" .requested, activeCall "two" "call" .requested]

end Example

open Example in
theorem handleMessage_items_one :
    (twoRing.handleMessage (readings 20) (readings 20) (notice [retractItem "one"])) =
      .ok (twoRing.signalEvent (readings 20) (readings 20) (retract "one")) := by
  refine (OnSipXmpp.handleMessage_items (notice_notifies [retractItem "one"]) rfl ?_).2 _ _ _
  exact fun reads => absurd reads.2.1.1 Bool.false_ne_true

open Example in
/-- The caller hangs up while two phones ring, and one notification retracts both branches. The
events of its items would end the call. The message is dropped and the call rings on. -/
theorem twoRetracts_lost :
    (notice [retractItem "one", retractItem "two"]).Notifies
        [retractItem "one", retractItem "two"] ∧
      (notice [retractItem "one", retractItem "two"]).subscribed = none ∧
      (notice [retractItem "one", retractItem "two"]).eventsOfItems
        [retractItem "one", retractItem "two"] = [retract "one", retract "two"] ∧
      msgFactory (notice [retractItem "one", retractItem "two"]) = .ok none ∧
      (twoRing.handleMessage (readings 20) (readings 20)
        (notice [retractItem "one", retractItem "two"])) = .ok twoRing ∧
      twoRing.calls.stateHandlers.map CallHandler.state = [.offering] ∧
      (twoRing.signalEach (readings 20) (readings 20)
        [retract "one", retract "two"]).calls.stateHandlers = [] :=
  ⟨notice_notifies _, rfl, rfl, rfl, rfl, rfl, rfl⟩

end JnTapi
