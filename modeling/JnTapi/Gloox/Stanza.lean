/-
This file models how gloox makes stanzas of the tags that it receives: the ids and the names
of a stanza, and the extensions that the registered filters find in it.

What the program does not read of a stanza or of an extension is left out. Without LibIDN the
preparation of the portions of a name only limits their length.
-/

import JnTapi.Gloox.Parser
import JnTapi.Gloox.XPath
import JnTapi.Stanzas

namespace JnTapi.Gloox

/-! ### Reading tags -/

/-- `Tag::hasAttribute` with a value -/
def TagHead.hasAttributeValue (name value : TString) (head : TagHead) : Bool :=
  match head.attribs.find? fun attr => attr.name = name with
  | some attr => name ≠ [] && (value = [] || attr.value = value)
  | none => false

namespace Tag

def name (tag : Tag) : TString := tag.head.name

def findAttribute (name : TString) (tag : Tag) : TString := tag.head.findAttribute name

/-- `Tag::cdata` -/
def cdata (tag : Tag) : TString :=
  tag.nodes.flatMap fun
    | .string str => str
    | .tag _ _ => []

/-- `Tag::findChild` with the value of an attribute -/
def findChildWith (name attr value : TString) (tag : Tag) : Option Tag :=
  if name = [] then none
  else tag.children.find? fun child => child.name = name && child.head.hasAttributeValue attr value

/-- `Tag::xmlns` of a tag below others, the nearest first -/
def xmlnsBelow (around : List TagHead) (tag : Tag) : TString :=
  TagHead.xmlnsOf tag.head.tagPrefix (tag.head :: around)

end Tag

/-- `JID_PORTION_SIZE` -/
def jidPortionSize : Nat := 1023

/-- `prep::nodeprep`, `prep::nameprep` and `prep::resourceprep` -/
def prep (portion : TString) : Option TString :=
  if jidPortionSize < portion.length then none else some portion

/-- `JID::full` behind `JID::setJID` of a new JID -/
def fullJid (jid : TString) : TString :=
  let (username, rest) :=
    if '@' ∈ jid then (jid.takeWhile (· ≠ '@'), (jid.dropWhile (· ≠ '@')).tail) else ([], jid)
  let server := rest.takeWhile (· ≠ '/')
  let resource := (rest.dropWhile (· ≠ '/')).tail
  match prep username, prep server, prep resource with
  | some username, some server, some resource =>
    (if username = [] then [] else username ++ ['@']) ++ server ++
      if resource = [] then [] else '/' :: resource
  | _, _, _ => []

/-! ### Extensions -/

def xmlnsClient : TString := "jabber:client".toList

def xmlnsXData : TString := "jabber:x:data".toList

def xmlnsAdhocCommands : TString := "http://jabber.org/protocol/commands".toList

def xmlnsPubSubEvent : TString := "http://jabber.org/protocol/pubsub#event".toList

/-- `ONSIP_ACTIVECALLS_EVENT_XMLNS` -/
def onsipActiveCallsEventXmlns : TString := "onsip:active-calls".toList

/-- `DataFormField`, from its tag -/
def dataFormField (tag : Tag) : DataFormField where
  name := tag.findAttribute "var".toList
  values :=
    let values := (tag.children.filter fun child => child.name = "value".toList).map Tag.cdata
    if ["text-multi".toList, "list-multi".toList, "jid-multi".toList].contains
      (tag.findAttribute "type".toList) then values
    else values.getLast?.toList

/-- `dfTypeValues` -/
def dfTypeValues : List TString := ["form", "submit", "cancel", "result"].map String.toList

/-- `DataForm::parse` -/
def dataForm (around : List TagHead) (tag : Tag) : DataForm :=
  let type := tag.findAttribute "type".toList
  if tag.xmlnsBelow around ≠ xmlnsXData ∨ tag.name ≠ "x".toList then ⟨[]⟩
  else if type ≠ [] ∧ !dfTypeValues.contains type then ⟨[]⟩
  else ⟨(tag.children.filter fun child => child.name = "field".toList).map dataFormField⟩

/-- `Adhoc::Command`, from its tag -/
def adhocCommand (around : List TagHead) (tag : Tag) : Command :=
  if tag.name ≠ "command".toList ∨ tag.xmlnsBelow around ≠ xmlnsAdhocCommands then ⟨[], none⟩
  else
    ⟨tag.findAttribute "node".toList,
      (tag.findChildWith "x".toList xmlns xmlnsXData).map (dataForm (tag.head :: around))⟩

/-- `PubSubSubscribedExt::_parse`, with the `subid` of the tag -/
def pubSubSubscribed (tag : Tag) : PubSubSubscribedExt :=
  ⟨if tag.name = "subscription".toList then tag.findAttribute "subscription".toList else [],
    tag.findAttribute "subid".toList⟩

/-- `eventTypeValues`, as `util::lookup` finds them -/
def eventType (name : TString) : EventType :=
  if name = "collection".toList then .collection
  else if name = "configuration".toList then .configure
  else if name = "delete".toList then .delete
  else if name = "items".toList then .items
  else if name = "purge".toList then .purge
  else .unknown

/-- What `XmppActiveCallEvent::checkEvent` finds in the payload -/
def activeCallTag (payload : Tag) : Option ActiveCallTag :=
  (payload.findChildWith "active-call".toList xmlns onsipActiveCallsEventXmlns).map fun tag =>
    ⟨tag.children.map fun child => (child.name, child.cdata)⟩

/-- `PubSub::Event::ItemOperation`, from its tag -/
def itemOperation (tag : Tag) : ItemOperation :=
  ⟨tag.name = "retract".toList, tag.findAttribute "id".toList, activeCallTag tag⟩

/-- The loop over the children in the constructor of `PubSub::Event`, with whether
`m_subscriptionIDs` is set -/
def readEvents : List Tag → Bool → PubSubEvent → PubSubEvent
  | [], _, event => event
  | tag :: rest, subscriptionIds, event =>
    match eventType tag.name with
    | .unknown =>
      if tag.name ≠ "headers".toList ∨ subscriptionIds then event else readEvents rest true event
    | .items =>
      readEvents rest subscriptionIds
        ⟨.items, event.items ++ tag.children.map itemOperation⟩
    | type => readEvents rest subscriptionIds { event with type := type }

/-- `PubSub::Event`, from its tag -/
def pubSubEvent (tag : Tag) : PubSubEvent :=
  if tag.name ≠ "event".toList then ⟨.unknown, []⟩
  else readEvents tag.children false ⟨.unknown, []⟩

/-- The extensions that the program and gloox register, by the value of `extensionType` -/
inductive ExtensionType
  | error
  | ping
  | roster
  | resourceBind
  | caps
  | discoInfo
  | discoItems
  | version
  | dataForm
  | adhocCommand
  | pubSub
  | pubSubOwner
  | pubSubEvent
  | shim
  | pubSubSubscribed
deriving DecidableEq, Repr

/-- `StanzaExtension`; of the others the program reads nothing. -/
inductive StanzaExtension
  | error
  | adhocCommand (command : Command)
  | pubSubEvent (event : PubSubEvent)
  | pubSubSubscribed (ext : PubSubSubscribedExt)
  | other (type : ExtensionType)
deriving DecidableEq, Repr

/-- `StanzaExtension::extensionType` -/
def StanzaExtension.extensionType : StanzaExtension → ExtensionType
  | error => .error
  | adhocCommand _ => .adhocCommand
  | pubSubEvent _ => .pubSubEvent
  | pubSubSubscribed _ => .pubSubSubscribed
  | other type => type

namespace ExtensionType

/-- `StanzaExtension::filterString` -/
def filterString : ExtensionType → TString
  | error => "/iq/error|/message/error|/presence/error|/subscription/error".toList
  | ping => "/iq/ping[@xmlns='urn:xmpp:ping']".toList
  | roster => "/iq/query[@xmlns='jabber:iq:roster']".toList
  | resourceBind => "/iq/bind[@xmlns='urn:ietf:params:xml:ns:xmpp-bind']".toList ++
      "|/iq/unbind[@xmlns='urn:ietf:params:xml:ns:xmpp-bind']".toList
  | caps => "/presence/c[@xmlns='http://jabber.org/protocol/caps']".toList
  | discoInfo => "/iq/query[@xmlns='http://jabber.org/protocol/disco#info']".toList
  | discoItems => "/iq/query[@xmlns='http://jabber.org/protocol/disco#items']".toList
  | version => "/iq/query[@xmlns='jabber:iq:version']".toList
  | dataForm => "/message/x[@xmlns='jabber:x:data']".toList
  | adhocCommand => "/iq/command[@xmlns='http://jabber.org/protocol/commands']".toList
  | pubSub => "/iq/pubsub[@xmlns='http://jabber.org/protocol/pubsub']".toList
  | pubSubOwner => "/iq/pubsub[@xmlns='http://jabber.org/protocol/pubsub#owner']".toList
  | pubSubEvent => "/message/event[@xmlns='http://jabber.org/protocol/pubsub#event']".toList
  | shim => "/presence/headers[@xmlns='http://jabber.org/protocol/shim']".toList ++
      "|/message/headers[@xmlns='http://jabber.org/protocol/shim']".toList ++
      "|/iq/*/headers[@xmlns='http://jabber.org/protocol/shim']".toList
  | pubSubSubscribed => "/message/event/subscription".toList

/-- `StanzaExtension::newInstance` for what the filter finds in a stanza -/
def newInstance (type : ExtensionType) (stanza tag : Tag) : StanzaExtension :=
  match type with
  | error => .error
  | adhocCommand => .adhocCommand (Gloox.adhocCommand [stanza.head] tag)
  | pubSubEvent => .pubSubEvent (Gloox.pubSubEvent tag)
  | pubSubSubscribed => .pubSubSubscribed (Gloox.pubSubSubscribed tag)
  | type => .other type

end ExtensionType

/-- `StanzaExtensionFactory::registerExtension` -/
def registerExtension (factory : List ExtensionType) (type : ExtensionType) : List ExtensionType :=
  factory.filter (· ≠ type) ++ [type]

/-- `StanzaExtensionFactory::addExtensions`; `none` when a filter is left out -/
def addExtensions (stanza : Tag) : List ExtensionType → Option (List StanzaExtension)
  | [] => some []
  | type :: rest =>
    match XPath.findTagList type.filterString stanza, addExtensions stanza rest with
    | some found, some others => some (found.map (fun new => type.newInstance stanza new.2) ++ others)
    | _, _ => none

/-- `Stanza::findExtension` -/
def findExtension (type : ExtensionType) (extensions : List StanzaExtension) :
    Option StanzaExtension :=
  extensions.find? fun extension => extension.extensionType = type

/-- The factory of the client: what its constructor, `OnSipXmppBase::Start` and the manager of
the subscriptions register, without the roster, which `Client::disableRoster` removes -/
def registered : List ExtensionType :=
  let client := [.discoInfo, .discoItems, .version, .error, .ping, .roster, .resourceBind, .caps]
  let start := [.dataForm, .adhocCommand, .pubSubEvent, .error, .pubSubSubscribed]
  let manager := [.pubSub, .pubSubOwner, .shim]
  manager.foldl registerExtension
    (((start.foldl registerExtension (client.foldl registerExtension []))).filter (· ≠ .roster))

/-! ### Stanzas -/

/-- `ExtAdhocCommand` among the extensions -/
def commandOf (extensions : List StanzaExtension) : Option Command :=
  match findExtension .adhocCommand extensions with
  | some (.adhocCommand command) => some command
  | _ => none

/-- `ExtPubSubEvent` among the extensions -/
def pubSubEventOf (extensions : List StanzaExtension) : Option PubSubEvent :=
  match findExtension .pubSubEvent extensions with
  | some (.pubSubEvent event) => some event
  | _ => none

/-- `ONSIP_STANZAEXT_PUBSUB_SUBSCRIBED` among the extensions -/
def subscribedOf (extensions : List StanzaExtension) : Option PubSubSubscribedExt :=
  match findExtension .pubSubSubscribed extensions with
  | some (.pubSubSubscribed ext) => some ext
  | _ => none

/-- The type of an `IQ` -/
def iqType (type : TString) : IqType :=
  if type = "get".toList then .get
  else if type = "set".toList then .set
  else if type = "result".toList then .result
  else if type = "error".toList then .error
  else .invalid

/-- `IQ`, from its tag, with its extensions -/
def iqOf (tag : Tag) (extensions : List StanzaExtension) : IQ where
  subtype := iqType (tag.findAttribute "type".toList)
  id := tag.findAttribute "id".toList
  sender := fullJid (tag.findAttribute "from".toList)
  hasError := (findExtension .error extensions).isSome
  command := commandOf extensions

/-- The type of a `Message` -/
def messageType (type : TString) : MessageType :=
  if type = [] ∨ type = "normal".toList then .normal
  else if type = "chat".toList then .chat
  else if type = "error".toList then .error
  else if type = "groupchat".toList then .groupchat
  else if type = "headline".toList then .headline
  else .invalid

/-- `Message`, from its tag, with its extensions -/
def messageOf (tag : Tag) (extensions : List StanzaExtension) : Message where
  subtype := messageType (tag.findAttribute "type".toList)
  id := tag.findAttribute "id".toList
  sender := fullJid (tag.findAttribute "from".toList)
  hasError := (findExtension .error extensions).isSome
  subscribed := subscribedOf extensions
  pubSubEvent := pubSubEventOf extensions

/-! ### Receiving -/

/-- `ClientBase::checkStreamVersion`: the major version is not above that of gloox. -/
def checkStreamVersion (version : TString) : Bool :=
  version ≠ [] &&
    if version.head? ≠ some '.' ∧ '.' ∈ version then
      (strtol 10 (version.takeWhile (· ≠ '.'))).1 ≤ 1
    else true

/-- `Client::handleNormalNode`, as to whether it takes the tag -/
def isNormalNode (tag : Tag) : Bool :=
  let xmlns := tag.findAttribute xmlns
  tag.name = "features".toList && tag.xmlnsBelow [] = xmlnsStream ||
    tag.name = "proceed".toList && xmlns = "urn:ietf:params:xml:ns:xmpp-tls".toList ||
    tag.name = "failure".toList ||
    tag.name = "compressed".toList && xmlns = "http://jabber.org/protocol/compress".toList ||
    (tag.name = "challenge".toList || tag.name = "success".toList) &&
      xmlns = "urn:ietf:params:xml:ns:xmpp-sasl".toList

/-- What becomes of a tag in `ClientBase::handleTag` -/
inductive Receipt
  | streamStarts
  | streamVersionError
  | streamError
  | normalNode
  | iq (iq : IQ)
  | message (msg : Message)
  | presence
  | invalidStanza
  | tagHandlers
deriving DecidableEq, Repr

/-- `ClientBase::handleTag` of a stream that goes on; `none` when a filter is left out -/
def handleTag (tag : Tag) : Option Receipt :=
  let xmlns := tag.xmlnsBelow []
  if tag.name = "stream".toList ∧ xmlns = xmlnsStream then
    if checkStreamVersion (tag.findAttribute "version".toList) then some .streamStarts
    else some .streamVersionError
  else if tag.name = "error".toList ∧ xmlns = xmlnsStream then some .streamError
  else if isNormalNode tag then some .normalNode
  else if xmlns = [] ∨ xmlns = xmlnsClient then
    if tag.name = "iq".toList then
      (addExtensions tag registered).map fun extensions => .iq (iqOf tag extensions)
    else if tag.name = "message".toList then
      (addExtensions tag registered).map fun extensions => .message (messageOf tag extensions)
    else if tag.name = "presence".toList then some .presence
    else some .invalidStanza
  else some .tagHandlers

end JnTapi.Gloox
