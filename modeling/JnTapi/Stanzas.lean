/-
This file models the stanzas that the server sends and the factories that make
events of them.

Of a stanza the model has what the program reads. A pointer that may be null is an
option; of the tag of a message, which is only written to the log, there is no more
than whether it is null. A read of what is not there is the error of the function that
makes it. The item of a notification always has a payload.
-/

import JnTapi.Events

namespace JnTapi

/-! ### Stanzas -/

/-- The source reads what is not there; what it does from here on is not defined. -/
inductive UndefinedRead
  /-- The form has no field with the name, and the pointer to it is null. -/
  | field (name : TString)
  /-- The field with the name has no value, and the front of an empty list is read. -/
  | value (name : TString)
  /-- The message is of no type, and the pointer to its tag is null. -/
  | tag
deriving DecidableEq, Repr

/-- The read is one through a null pointer. -/
def UndefinedRead.isNull : UndefinedRead → Bool
  | field _ | tag => true
  | value _ => false

/-- `gloox::DataFormField` -/
structure DataFormField where
  name : TString
  values : List TString
deriving DecidableEq, Repr

/-- `gloox::DataFormField::value`, the front of the values -/
def DataFormField.value (field : DataFormField) : Except UndefinedRead TString :=
  match field.values with
  | value :: _ => .ok value
  | [] => .error (.value field.name)

/-- `gloox::DataForm` -/
structure DataForm where
  fields : List DataFormField
deriving DecidableEq, Repr

/-- `gloox::DataFormFieldContainer::field` -/
def DataForm.field (name : TString) (form : DataForm) : Option DataFormField :=
  form.fields.find? fun field => field.name = name

/-- The reading of the value of a field that the source takes to be there -/
def DataForm.readField (name : TString) (form : DataForm) : Except UndefinedRead TString :=
  match form.field name with
  | some field => field.value
  | none => .error (.field name)

/-- `gloox::Adhoc::Command` -/
structure Command where
  node : TString
  form : Option DataForm
deriving DecidableEq, Repr

/-- `gloox::IQ::IqType` -/
inductive IqType
  | get
  | set
  | result
  | error
  | invalid
deriving DecidableEq, Repr

/-- `gloox::IQ` -/
structure IQ where
  subtype : IqType
  id : TString
  sender : TString
  /-- Whether `error()` is not null -/
  hasError : Bool
  /-- The extension `ExtAdhocCommand` -/
  command : Option Command
deriving DecidableEq, Repr

/-- Whether the IQ answers a request -/
def IQ.isReply (iq : IQ) : Bool :=
  match iq.subtype with
  | .result | .error => true
  | _ => false

/-- `PubSubSubscribedExt` with the `subid` of its tag -/
structure PubSubSubscribedExt where
  subscription : TString
  subid : TString
deriving DecidableEq, Repr

/-- The tag `active-call`: the names and the texts of its children -/
structure ActiveCallTag where
  children : List (TString × TString)
deriving DecidableEq, Repr

/-- `TagHelper::getChildText` -/
def ActiveCallTag.getChildText (name : TString) (tag : ActiveCallTag) : TString :=
  match tag.children.find? fun child => child.1 = name with
  | some child => child.2
  | none => []

/-- `gloox::PubSub::EventType` -/
inductive EventType
  | collection
  | configure
  | delete
  | items
  | itemsRetract
  | purge
  | unknown
deriving DecidableEq, Repr

/-- `gloox::PubSub::Event::ItemOperation` -/
structure ItemOperation where
  retract : Bool
  item : TString
  /-- The tag `active-call` of the payload -/
  activeCall : Option ActiveCallTag
deriving DecidableEq, Repr

/-- `gloox::PubSub::Event` -/
structure PubSubEvent where
  type : EventType
  items : List ItemOperation
deriving DecidableEq, Repr

/-- `gloox::Message::MessageType` -/
inductive MessageType
  | chat
  | error
  | groupchat
  | headline
  | normal
  | invalid
deriving DecidableEq, Repr

/-- `gloox::Message` -/
structure Message where
  subtype : MessageType
  id : TString
  sender : TString
  /-- Whether `error()` is not null -/
  hasError : Bool
  /-- The extension `ONSIP_STANZAEXT_PUBSUB_SUBSCRIBED` -/
  subscribed : Option PubSubSubscribedExt
  /-- The extension `ExtPubSubEvent` -/
  pubSubEvent : Option PubSubEvent
deriving DecidableEq, Repr

/-- `gloox::Message::tag` is null: the type of the message is none of those of a message. -/
def Message.lacksTag (msg : Message) : Bool := msg.subtype = .invalid

def onsipAuthNode : TString := "authorize-plain".toList

def onsipActiveCallsCommand : TString := "commands.active-calls.xmpp.onsip.com".toList

def onsipPubSubActiveCalls : TString := "pubsub.active-calls.xmpp.onsip.com".toList

/-! ### The factories -/

/-- `XmppActiveCallEvent::_convertDialogState` -/
def convertDialogState (callState : TString) : CallDialogState :=
  if callState = "created".toList then .created
  else if callState = "confirmed".toList then .confirmed
  else if callState = "requested".toList then .requested
  else .unknown

namespace XmppEventFactory

/-- The command and the form of the reply to a command, if it has both -/
def replyForm (iq : IQ) : Option (Command × DataForm) :=
  match iq.command with
  | some command =>
    if iq.isReply then command.form.map fun form => (command, form) else none
  | none => none

/-- The event of the reply to a command: without an error it has the value of a field of the
form -/
def readReply (iq : IQ) (context : Long) (form : DataForm) (name : TString)
    (data : TString → XmppEventData) : Except UndefinedRead (Option XmppEvent) :=
  if iq.hasError then .ok (some ⟨iq.id, true, context, data []⟩)
  else (form.readField name).map fun value => some ⟨iq.id, false, context, data value⟩

/-- `XmppAuthEvent::checkEvent` -/
def checkAuth (iq : IQ) (context : Long) : Except UndefinedRead (Option XmppEvent) :=
  match replyForm iq with
  | some (command, form) =>
    if command.node = onsipAuthNode then readReply iq context form "expires".toList .auth
    else .ok none
  | none => .ok none

/-- `XmppCallRequestEvent::checkEvent` -/
def checkCallRequest (iq : IQ) (context : Long) : Except UndefinedRead (Option XmppEvent) :=
  match replyForm iq with
  | some (command, form) =>
    if command.node = "create".toList ∧ iq.sender = onsipActiveCallsCommand then
      readReply iq context form "call-setup-id".toList .callRequest
    else .ok none
  | none => .ok none

/-- `XmppIqResultEvent::checkEvent` -/
def checkIqResult (iq : IQ) (context : Long) : Option XmppEvent :=
  if iq.isReply then some ⟨iq.id, iq.hasError, context, .iqResult⟩ else none

/-- `XmppEventFactory::iqFactory` -/
def iqFactory (iq : IQ) (context : Long) : Except UndefinedRead (Option XmppEvent) := do
  match ← checkAuth iq context with
  | some event => return some event
  | none =>
    match ← checkCallRequest iq context with
    | some event => return some event
    | none => return checkIqResult iq context

/-- `XmppPubSubSubscribedEvent::checkEvent` -/
def checkSubscribed (msg : Message) : Option XmppEvent :=
  msg.subscribed.map fun pss =>
    ⟨msg.id, msg.hasError, 0, .subscribed (pss.subscription = "subscribed".toList) pss.subid⟩

/-- The only item of a notification of active calls, as both events of it check -/
def onlyItem (msg : Message) : Option ItemOperation :=
  match msg.pubSubEvent with
  | some pse =>
    match pse.items with
    | [item] => if pse.type = .items ∧ msg.sender = onsipPubSubActiveCalls then some item else none
    | _ => none
  | none => none

/-- `XmppEvent::XmppEvent` with `msg.tag()`: the tag of a message with an error is written out. -/
def newXmppEvent (msg : Message) (id : TString) (data : XmppEventData) :
    Except UndefinedRead XmppEvent :=
  if msg.hasError ∧ msg.lacksTag then .error .tag else .ok ⟨id, msg.hasError, 0, data⟩

/-- `XmppActiveCallEvent::checkEvent` -/
def checkActiveCall (msg : Message) : Except UndefinedRead (Option XmppEvent) :=
  match onlyItem msg with
  | some item =>
    match item.activeCall with
    | some activeCall => some <$> newXmppEvent msg item.item (.activeCall
        { dialogState := convertDialogState (activeCall.getChildText "dialog-state".toList)
          sipCallid := activeCall.getChildText "call-id".toList
          fromUri := activeCall.getChildText "from-uri".toList
          toUri := activeCall.getChildText "to-uri".toList
          fromTag := activeCall.getChildText "from-tag".toList
          toTag := activeCall.getChildText "to-tag".toList
          branch := activeCall.getChildText "branch".toList
          callSetupId := activeCall.getChildText "call-setup-id".toList })
    | none => .ok none
  | none => .ok none

/-- `XmppRetractCallEvent::checkEvent` -/
def checkRetractCall (msg : Message) : Except UndefinedRead (Option XmppEvent) :=
  match onlyItem msg with
  | some item =>
    if item.retract then some <$> newXmppEvent msg item.item .retractCall else .ok none
  | none => .ok none

/-- `XmppEventFactory::msgFactory` -/
def msgFactory (msg : Message) : Except UndefinedRead (Option XmppEvent) := do
  match checkSubscribed msg with
  | some event => return some event
  | none =>
    match ← checkActiveCall msg with
    | some event => return some event
    | none => checkRetractCall msg

/-! ### What the items stand for -/

end XmppEventFactory

/-- The call that the tag describes -/
def ActiveCallTag.call (tag : ActiveCallTag) : ActiveCall :=
  { dialogState := convertDialogState (tag.getChildText "dialog-state".toList)
    sipCallid := tag.getChildText "call-id".toList
    fromUri := tag.getChildText "from-uri".toList
    toUri := tag.getChildText "to-uri".toList
    fromTag := tag.getChildText "from-tag".toList
    toTag := tag.getChildText "to-tag".toList
    branch := tag.getChildText "branch".toList
    callSetupId := tag.getChildText "call-setup-id".toList }

/-- The event that the item stands for. The call of a payload is looked for before the mark of a
retract. -/
def ItemOperation.event (hasError : Bool) (item : ItemOperation) : Option XmppEvent :=
  match item.activeCall with
  | some tag => some ⟨item.item, hasError, 0, .activeCall tag.call⟩
  | none => if item.retract then some ⟨item.item, hasError, 0, .retractCall⟩ else none

namespace XmppEventFactory

/-! ### What the factories make -/

/-- The form has no such field, or the field has no value, or the event has its value. -/
theorem readReply_cases (iq : IQ) (context : Long) (form : DataForm) (name : TString)
    (data : TString → XmppEventData) :
    ((iq.hasError = false ∧ form.field name = none) ∧
      readReply iq context form name data = .error (.field name)) ∨
    ((iq.hasError = false ∧ ∃ field, form.field name = some field ∧ field.values = []) ∧
      ∃ read, read.isNull = false ∧ readReply iq context form name data = .error read) ∨
    (¬ (iq.hasError = false ∧ ∀ field, form.field name = some field → field.values = []) ∧
      ∃ value, readReply iq context form name data =
        .ok (some ⟨iq.id, iq.hasError, context, data value⟩)) := by
  unfold readReply DataForm.readField
  cases iq.hasError with
  | true => exact Or.inr (Or.inr ⟨by simp, [], rfl⟩)
  | false =>
    cases form.field name with
    | none => exact Or.inl ⟨⟨rfl, rfl⟩, rfl⟩
    | some field =>
      obtain ⟨fieldName, values⟩ := field
      cases values with
      | nil => exact Or.inr (Or.inl ⟨⟨rfl, _, rfl, rfl⟩, .value fieldName, rfl, rfl⟩)
      | cons value rest => exact Or.inr (Or.inr ⟨by simp, value, rfl⟩)

theorem readReply_data {iq : IQ} {context : Long} {form : DataForm} {name : TString}
    {data : TString → XmppEventData} {event : XmppEvent}
    (made : readReply iq context form name data = .ok (some event)) :
    event.context = context ∧ ∃ value, event.data = data value := by
  rcases readReply_cases iq context form name data with
    ⟨-, failed⟩ | ⟨-, read, -, failed⟩ | ⟨-, value, result⟩
  · rw [failed] at made
    cases made
  · rw [failed] at made
    cases made
  · rw [result] at made
    cases made
    exact ⟨rfl, value, rfl⟩

theorem checkAuth_data {iq : IQ} {context : Long} {event : XmppEvent}
    (made : checkAuth iq context = .ok (some event)) :
    ∃ expireDate, event.data = .auth expireDate := by
  unfold checkAuth at made
  split at made
  · split_ifs at made
    · exact (readReply_data made).2
    · cases made
  · cases made

theorem checkCallRequest_data {iq : IQ} {context : Long} {event : XmppEvent}
    (made : checkCallRequest iq context = .ok (some event)) :
    event.context = context ∧ ∃ callSetupId, event.data = .callRequest callSetupId := by
  unfold checkCallRequest at made
  split at made
  · split_ifs at made
    · exact readReply_data made
    · cases made
  · cases made

theorem checkIqResult_data {iq : IQ} {context : Long} {event : XmppEvent}
    (made : checkIqResult iq context = some event) :
    event.context = context ∧ event.data = .iqResult := by
  unfold checkIqResult at made
  split_ifs at made
  obtain rfl := Option.some.inj made
  exact ⟨rfl, rfl⟩

/-- Without the answer to an authorization, the event of a reply is the answer to a call request or
an unspecific one, and has the context of the request. -/
theorem iqFactory_data {iq : IQ} {context : Long} {event : XmppEvent}
    (made : iqFactory iq context = .ok (some event))
    (notAuth : ∀ expireDate, event.data ≠ .auth expireDate) :
    event.context = context ∧
      (event.data = .iqResult ∨ ∃ callSetupId, event.data = .callRequest callSetupId) := by
  unfold iqFactory at made
  rcases first : checkAuth iq context with _ | _ | authorized
  · rw [first] at made
    cases made
  · rw [first] at made
    rcases second : checkCallRequest iq context with _ | _ | requested
    · rw [second] at made
      cases made
    · rw [second] at made
      obtain ⟨same, result⟩ := checkIqResult_data (Except.ok.inj made)
      exact ⟨same, Or.inl result⟩
    · rw [second] at made
      obtain rfl := Option.some.inj (Except.ok.inj made)
      obtain ⟨same, request⟩ := checkCallRequest_data second
      exact ⟨same, Or.inr request⟩
  · rw [first] at made
    obtain rfl := Option.some.inj (Except.ok.inj made)
    obtain ⟨expireDate, auth⟩ := checkAuth_data first
    exact absurd auth (notAuth expireDate)

/-- What the factory makes of a message that is not about a subscription: the event of its only
item, unless the constructor of the event reads through the null pointer to the tag. -/
theorem msgFactory_eq {msg : Message} (notSubscribed : checkSubscribed msg = none) :
    msgFactory msg =
      match (onlyItem msg).bind (ItemOperation.event msg.hasError) with
      | some event => if msg.hasError ∧ msg.lacksTag then .error .tag else .ok (some event)
      | none => .ok none := by
  unfold msgFactory checkActiveCall checkRetractCall newXmppEvent
  rw [notSubscribed]
  rcases onlyItem msg with _ | ⟨retract, id, _ | tag⟩
  · rfl
  · cases retract with
    | false => rfl
    | true =>
      show (some <$> if _ then _ else _ : Except UndefinedRead (Option XmppEvent)) = if _ then _ else _
      split_ifs <;> rfl
  · dsimp only [Option.bind_some, ItemOperation.event]
    split_ifs <;> rfl

/-- The only item of the message stands for an event, and the tag that is written out because the
message has an error is null. -/
def ReadsNullTag (msg : Message) : Prop :=
  msg.subscribed = none ∧ (msg.hasError = true ∧ msg.lacksTag = true) ∧
    ∃ item ∈ onlyItem msg, (item.event msg.hasError).isSome

/-- No item stands for an event of a reply. -/
theorem event_ne_iqResult {hasError : Bool} {item : ItemOperation} {event : XmppEvent}
    (stands : item.event hasError = some event) : event.data ≠ .iqResult := by
  obtain ⟨retract, id, _ | tag⟩ := item
  · cases retract with
    | false => cases stands
    | true =>
      cases stands
      simp
  · cases stands
    simp

/-- The factory reads through the null pointer to the tag, or the event that it makes is none of a
reply. -/
theorem msgFactory_cases (msg : Message) :
    (ReadsNullTag msg ∧ msgFactory msg = .error .tag) ∨
    (¬ ReadsNullTag msg ∧
      ∃ made, msgFactory msg = .ok made ∧ ∀ event ∈ made, event.data ≠ .iqResult) := by
  cases about : msg.subscribed with
  | some pss =>
    refine Or.inr ⟨fun reads => ?_, checkSubscribed msg, ?_, ?_⟩
    · cases about.symm.trans reads.1
    · rw [msgFactory, checkSubscribed, about]
      rfl
    · rw [checkSubscribed, about]
      rintro event ⟨⟩
      simp
  | none =>
    have notSubscribed : checkSubscribed msg = none := by
      rw [checkSubscribed, about, Option.map_none]
    rw [msgFactory_eq notSubscribed]
    cases stands : (onlyItem msg).bind (ItemOperation.event msg.hasError) with
    | none =>
      refine Or.inr ⟨?_, none, rfl, by simp⟩
      rintro ⟨-, -, item, only, isEvent⟩
      rw [only, Option.bind_some] at stands
      rw [stands] at isEvent
      cases isEvent
    | some event =>
      obtain ⟨item, only, made⟩ := Option.bind_eq_some_iff.mp stands
      dsimp only
      split_ifs with null
      · exact Or.inl ⟨⟨about, null, item, only, by rw [made]; rfl⟩, rfl⟩
      · refine Or.inr ⟨fun reads => null reads.2.1, some event, rfl, ?_⟩
        rintro event ⟨⟩
        exact event_ne_iqResult made

end XmppEventFactory

end JnTapi
