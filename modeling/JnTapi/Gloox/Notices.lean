/-
This file proves that what the server tells of the calls becomes the events of the program:
each message is one event, in the order of the stream and wherever its text is cut.

A notice is what a message tells, with what else stands in the message. Its tag is written by
gloox's own `Tag::xml`; that the parser gives it back is proved for all such tags before.
-/

import Mathlib.Data.List.Nodup
import JnTapi.Gloox.Filters
import JnTapi.Gloox.RoundTrip

namespace JnTapi.Gloox

/-! ### Tags without prefixes -/

/-- A tag without prefixes, as it stands in a text -/
def element (name : TString) (attribs : List (TString × TString)) (nodes : List Node) : Tag :=
  let attribs := attribs.map fun attr => ⟨attr.1, attr.2, []⟩
  ⟨⟨name, [], attribs, attribs.foldl Attribute.declareXmlns [], []⟩, nodes⟩

/-- The nodes of a text -/
def textNodes (text : TString) : List Node := if text = [] then [] else [.string text]

/-- An attribute with a name and a valid value -/
def IsAttribute (attr : TString × TString) : Prop :=
  IsName attr.1 ∧ checkValidXmlChars attr.2 = true

theorem foldl_declareXmlns_of_absent {attribs : List (TString × TString)}
    (absent : xmlns ∉ attribs.map Prod.fst) (declared : TString) :
    (attribs.map fun attr => (⟨attr.1, attr.2, []⟩ : Attribute)).foldl Attribute.declareXmlns
      declared = declared := by
  induction attribs with
  | nil => rfl
  | cons attr attribs inductionHypothesis =>
    rw [List.map_cons, List.mem_cons, not_or] at absent
    rw [List.map_cons, List.foldl_cons, Attribute.declareXmlns, if_neg (Ne.symm absent.1)]
    exact inductionHypothesis absent.2

/-- The only declaration of the default namespace is the one that counts. -/
theorem foldl_declareXmlns_of_mem {attribs : List (TString × TString)}
    (distinct : (attribs.map Prod.fst).Nodup) {value : TString} (member : (xmlns, value) ∈ attribs)
    (declared : TString) :
    (attribs.map fun attr => (⟨attr.1, attr.2, []⟩ : Attribute)).foldl Attribute.declareXmlns
      declared = value := by
  induction attribs generalizing declared with
  | nil => exact absurd member List.not_mem_nil
  | cons attr attribs inductionHypothesis =>
    rw [List.map_cons, List.nodup_cons] at distinct
    rw [List.map_cons, List.foldl_cons]
    rcases List.mem_cons.mp member with rfl | member
    · exact foldl_declareXmlns_of_absent distinct.1 value
    · exact inductionHypothesis distinct.2 member _

theorem foldl_declareXmlnss (attribs : List (TString × TString)) :
    (attribs.map fun attr => (⟨attr.1, attr.2, []⟩ : Attribute)).foldl Attribute.declareXmlnss
      [] = [] := by
  induction attribs with
  | nil => rfl
  | cons attr attribs inductionHypothesis => exact inductionHypothesis

theorem exact_element {name : TString} {attribs : List (TString × TString)} {nodes : List Node}
    (named : IsName name) (notStream : name ≠ "stream".toList)
    (isAttribute : ∀ attr ∈ attribs, IsAttribute attr) (distinct : (attribs.map Prod.fst).Nodup)
    (exact : NodesExact .opening nodes) : (element name attribs nodes).node.Exact := by
  rw [Tag.node, Node.Exact]
  refine ⟨⟨⟨named, Or.inl rfl⟩, ?_, rfl, foldl_declareXmlnss attribs⟩, notStream, exact⟩
  intro attr member
  obtain ⟨⟨key, value⟩, memberPair, rfl⟩ := List.mem_map.mp member
  refine ⟨⟨(isAttribute _ memberPair).1, Or.inl rfl⟩, (isAttribute _ memberPair).2, ?_⟩
  rintro rfl
  exact ⟨rfl, (foldl_declareXmlns_of_mem distinct memberPair []).symm⟩

theorem nodesExact_tags {tags : List Tag} (exact : ∀ tag ∈ tags, tag.node.Exact) (place : Place) :
    NodesExact place (tags.map Tag.node) := by
  induction tags generalizing place with
  | nil => trivial
  | cons tag tags inductionHypothesis =>
    rw [List.map_cons, NodesExact]
    exact ⟨exact tag List.mem_cons_self, trivial,
      inductionHypothesis (fun other member => exact other (List.mem_cons_of_mem _ member)) _⟩

theorem nodesExact_textNodes {text : TString} (valid : checkValidXmlChars text = true) :
    NodesExact .opening (textNodes text) := by
  unfold textNodes
  split_ifs with empty
  · trivial
  · exact ⟨⟨empty, valid⟩, Or.inl rfl, trivial⟩

theorem children_element (name : TString) (attribs : List (TString × TString))
    (tags : List Tag) : (element name attribs (tags.map Tag.node)).children = tags := by
  rw [Tag.children, element, List.filterMap_map]
  exact List.filterMap_some

theorem cdata_textNodes (name : TString) (attribs : List (TString × TString)) (text : TString) :
    (element name attribs (textNodes text)).cdata = text := by
  rw [Tag.cdata, element, textNodes]
  split_ifs with empty
  · exact empty.symm
  · exact List.append_nil text

/-! ### Notices -/

/-- What the server tells -/
inductive Report
  /-- The fields of an active call -/
  | activeCall (node item : TString) (fields : List (TString × TString))
  | retract (node item : TString)
  | subscribed (node subid subscription : TString)

/-- A message of the server: its attributes, and its report with the tags beside it -/
structure Notice where
  attribs : List (TString × TString)
  before : List Tag
  report : Report
  after : List Tag

namespace Report

/-- A field of an active call -/
def field (field : TString × TString) : Tag := element field.1 [] (textNodes field.2)

/-- What stands in the event -/
def content : Report → Tag
  | activeCall node item fields => element "items".toList [("node".toList, node)]
      ([element "item".toList [("id".toList, item)]
        ([element "active-call".toList [(xmlns, onsipActiveCallsEventXmlns)]
          ((fields.map field).map Tag.node)].map Tag.node)].map Tag.node)
  | retract node item => element "items".toList [("node".toList, node)]
      ([element "retract".toList [("id".toList, item)] []].map Tag.node)
  | subscribed node subid subscription => element "subscription".toList
      [("node".toList, node), ("subid".toList, subid), ("subscription".toList, subscription)] []

def tag (report : Report) : Tag :=
  element "event".toList [(xmlns, xmlnsPubSubEvent)] ([report.content].map Tag.node)

/-- The report is about a subscription. -/
def isSubscribed : Report → Bool
  | subscribed _ _ _ => true
  | _ => false

/-- The texts of the report can be written. -/
def Valid : Report → Prop
  | activeCall node item fields =>
    checkValidXmlChars node = true ∧ checkValidXmlChars item = true ∧
      ∀ field ∈ fields, IsName field.1 ∧ field.1 ≠ "stream".toList ∧
        checkValidXmlChars field.2 = true
  | retract node item => checkValidXmlChars node = true ∧ checkValidXmlChars item = true
  | subscribed node subid subscription =>
    checkValidXmlChars node = true ∧ checkValidXmlChars subid = true ∧
      checkValidXmlChars subscription = true

end Report

namespace Notice

/-- The message -/
def tag (notice : Notice) : Tag :=
  element "message".toList notice.attribs
    ((notice.before ++ notice.report.tag :: notice.after).map Tag.node)

/-- The value of an attribute, empty where there is none -/
def valueOf (name : String) (notice : Notice) : TString :=
  match notice.attribs.find? fun attr => attr.1 = name.toList with
  | some attr => attr.2
  | none => []

/-- An error stands beside the report. -/
def failed (notice : Notice) : Bool :=
  (notice.before ++ notice.after).any fun tag => tag.name = "error".toList

/-- The texts of the message can be written, it is one of the service and nothing beside the report
is an event. With an error, a message about a call is of a type that there is. -/
structure Valid (notice : Notice) : Prop where
  attribs : ∀ attr ∈ notice.attribs, IsAttribute attr
  distinct : (notice.attribs.map Prod.fst).Nodup
  client : ∀ attr ∈ notice.attribs, attr.1 = xmlns → attr.2 = xmlnsClient
  sender : ("from".toList, onsipPubSubActiveCalls) ∈ notice.attribs
  report : notice.report.Valid
  exact : ∀ tag ∈ notice.before ++ notice.after, tag.node.Exact
  beside : ∀ tag ∈ notice.before ++ notice.after, tag.name ≠ "event".toList
  hasTag : notice.failed = true → notice.report.isSubscribed = true ∨
    messageType (notice.valueOf "type") ≠ .invalid

/-- The event that the notice is -/
def event (notice : Notice) : XmppEvent :=
  match notice.report with
  | .activeCall _ item fields =>
    let text := fun name : String => ActiveCallTag.getChildText name.toList ⟨fields⟩
    ⟨item, notice.failed, 0, .activeCall
      { dialogState := convertDialogState (text "dialog-state")
        sipCallid := text "call-id"
        fromUri := text "from-uri"
        toUri := text "to-uri"
        fromTag := text "from-tag"
        toTag := text "to-tag"
        branch := text "branch"
        callSetupId := text "call-setup-id" }⟩
  | .retract _ item => ⟨item, notice.failed, 0, .retractCall⟩
  | .subscribed _ subid subscription =>
    ⟨notice.valueOf "id", notice.failed, 0,
      .subscribed (subscription = "subscribed".toList) subid⟩

end Notice

/-! ### A notice is written exactly -/

theorem isAttribute_of_all {name value : TString} (nonempty : name ≠ [])
    (chars : name.all isNameChar = true) (valid : checkValidXmlChars value = true) :
    IsAttribute (name, value) := ⟨isName_of_all nonempty chars, valid⟩

theorem exact_child {name : TString} {attribs : List (TString × TString)} {child : Tag}
    (named : IsName name) (notStream : name ≠ "stream".toList)
    (isAttribute : ∀ attr ∈ attribs, IsAttribute attr) (distinct : (attribs.map Prod.fst).Nodup)
    (exact : child.node.Exact) : (element name attribs ([child].map Tag.node)).node.Exact :=
  exact_element named notStream isAttribute distinct
    (nodesExact_tags (List.forall_mem_singleton.mpr exact) .opening)

theorem Report.Valid.content {report : Report} (valid : report.Valid) :
    report.content.node.Exact := by
  have items : IsName "items".toList := isName_of_all (by decide) rfl
  have nodeAttribute : ∀ node, checkValidXmlChars node = true →
      ∀ attr ∈ [("node".toList, node)], IsAttribute attr := fun node valid =>
    List.forall_mem_singleton.mpr (isAttribute_of_all (by decide) rfl valid)
  have idAttribute : ∀ item, checkValidXmlChars item = true →
      ∀ attr ∈ [("id".toList, item)], IsAttribute attr := fun item valid =>
    List.forall_mem_singleton.mpr (isAttribute_of_all (by decide) rfl valid)
  cases report with
  | activeCall node item fields =>
    obtain ⟨validNode, validItem, validFields⟩ := valid
    have exactFields : ∀ tag ∈ fields.map field, tag.node.Exact := by
      intro tag member
      obtain ⟨field, memberField, rfl⟩ := List.mem_map.mp member
      obtain ⟨named, notStream, validText⟩ := validFields field memberField
      exact exact_element named notStream (fun _ none => absurd none List.not_mem_nil)
        List.nodup_nil (nodesExact_textNodes validText)
    have exactCall : (element "active-call".toList [(xmlns, onsipActiveCallsEventXmlns)]
        ((fields.map field).map Tag.node)).node.Exact :=
      exact_element (isName_of_all (by decide) rfl) (by decide)
        (List.forall_mem_singleton.mpr (isAttribute_of_all (by decide) rfl rfl))
        (List.nodup_singleton _) (nodesExact_tags exactFields .opening)
    exact exact_child items (by decide) (nodeAttribute node validNode) (List.nodup_singleton _)
      (exact_child (isName_of_all (by decide) rfl) (by decide) (idAttribute item validItem)
        (List.nodup_singleton _) exactCall)
  | retract node item =>
    exact exact_child items (by decide) (nodeAttribute node valid.1) (List.nodup_singleton _)
      (exact_element (isName_of_all (by decide) rfl) (by decide) (idAttribute item valid.2)
        (List.nodup_singleton _) trivial)
  | subscribed node subid subscription =>
    obtain ⟨validNode, validSubid, validSubscription⟩ := valid
    refine exact_element (isName_of_all (by decide) rfl) (by decide) ?_
      (by decide : ["node".toList, "subid".toList, "subscription".toList].Nodup) trivial
    simp only [List.forall_mem_cons, List.not_mem_nil, false_imp_iff, implies_true, and_true]
    exact ⟨isAttribute_of_all (by decide) rfl validNode,
      isAttribute_of_all (by decide) rfl validSubid,
      isAttribute_of_all (by decide) rfl validSubscription⟩

theorem Report.Valid.exact {report : Report} (valid : report.Valid) : report.tag.node.Exact :=
  exact_child (isName_of_all (by decide) rfl) (by decide)
    (List.forall_mem_singleton.mpr (isAttribute_of_all (by decide) rfl rfl))
    (List.nodup_singleton _) valid.content

variable {notice : Notice}

namespace Notice

theorem children_tag (notice : Notice) :
    notice.tag.children = notice.before ++ notice.report.tag :: notice.after :=
  children_element _ _ _

/-- The report is the only event in the message. -/
theorem Valid.filter_event (valid : notice.Valid) (kind : Tag → Bool)
    (event : ∀ tag, kind tag = true → tag.name = "event".toList)
    (isReport : kind notice.report.tag = true) :
    notice.tag.children.filter kind = [notice.report.tag] := by
  have beside : ∀ tags : List Tag, (∀ tag ∈ tags, tag.name ≠ "event".toList) →
      tags.filter kind = [] := fun tags none =>
    List.filter_eq_nil_iff.mpr fun tag member isKind => none tag member (event tag isKind)
  rw [children_tag, List.filter_append, List.filter_cons, if_pos isReport,
    beside _ fun tag member => valid.beside tag (List.mem_append_left _ member),
    beside _ fun tag member => valid.beside tag (List.mem_append_right _ member)]
  rfl

theorem failed_eq (notice : Notice) :
    (notice.tag.children.any fun child => child.name = "error".toList) = notice.failed := by
  rw [children_tag, List.any_append, List.any_cons, failed, List.any_append]
  rfl

theorem findAttribute_tag (name : String) (notice : Notice) :
    notice.tag.findAttribute name.toList = notice.valueOf name := by
  have found : notice.tag.head.attribs.find? (fun attr => attr.name = name.toList) =
      (notice.attribs.find? fun attr => attr.1 = name.toList).map
        fun attr => ⟨attr.1, attr.2, []⟩ := List.find?_map
  rw [Tag.findAttribute, TagHead.findAttribute, found, valueOf]
  cases notice.attribs.find? fun attr => decide (attr.1 = name.toList) <;> rfl

/-- Attributes have distinct names, so that the one that is there is the one that is found. -/
theorem Valid.valueOf_of_mem (valid : notice.Valid) {name : String} {value : TString}
    (member : (name.toList, value) ∈ notice.attribs) : notice.valueOf name = value := by
  rw [valueOf]
  cases found : notice.attribs.find? fun attr => decide (attr.1 = name.toList) with
  | none => exact absurd (decide_eq_true rfl) (List.find?_eq_none.mp found _ member)
  | some attr =>
    have same : attr = (name.toList, value) := by
      have named : attr.1 = name.toList := by simpa using List.find?_some found
      exact List.inj_on_of_nodup_map valid.distinct (List.mem_of_find?_eq_some found) member named
    rw [same]

/-- The message stands in the namespace of the stream. -/
theorem Valid.xmlns_tag (valid : notice.Valid) :
    notice.tag.xmlnsBelow [] = [] ∨ notice.tag.xmlnsBelow [] = xmlnsClient := by
  have value : notice.tag.head.findAttribute xmlns = notice.valueOf "xmlns" :=
    findAttribute_tag "xmlns" notice
  show TagHead.xmlnsOf [] [notice.tag.head] = [] ∨ TagHead.xmlnsOf [] [notice.tag.head] = _
  rw [TagHead.xmlnsOf, if_pos rfl]
  have has : notice.tag.head.hasAttribute xmlns = true ↔ xmlns ∈ notice.attribs.map Prod.fst := by
    have named : xmlns ≠ [] := by decide
    rw [TagHead.hasAttribute, Bool.and_eq_true, List.any_eq_true]
    simp [tag, element, named]
  split_ifs with declared
  · obtain ⟨⟨name, uri⟩, member, rfl⟩ := List.mem_map.mp (has.mp declared)
    rw [value, valid.valueOf_of_mem member]
    exact Or.inr (valid.client _ member rfl)
  · exact Or.inl (foldl_declareXmlns_of_absent (has.not.mp declared) [])

/-- The message that gloox makes of the notice -/
def message (notice : Notice) : Message where
  subtype := messageType (notice.valueOf "type")
  id := notice.valueOf "id"
  sender := onsipPubSubActiveCalls
  hasError := notice.failed
  subscribed := (notice.report.tag.children.filter fun child =>
    child.name = "subscription".toList).head?.map pubSubSubscribed
  pubSubEvent := some (pubSubEvent notice.report.tag)

theorem Valid.handleTag (valid : notice.Valid) :
    handleTag notice.tag = some (.message notice.message) := by
  have named : notice.tag.name = "message".toList := rfl
  have subscribed := subscribedOf_eq named
  have events := pubSubEventOf_eq named
  have sender : fullJid onsipPubSubActiveCalls = onsipPubSubActiveCalls := by decide +kernel
  rw [valid.filter_event _ (fun _ => of_decide_eq_true) rfl, List.flatMap_singleton]
    at subscribed
  rw [← List.head?_filter, valid.filter_event _ (fun _ kind => (of_decide_eq_true kind).1) rfl]
    at events
  rw [handleTag_message named valid.xmlns_tag, messageOf, isSome_error named, failed_eq,
    subscribed, events, findAttribute_tag, findAttribute_tag, findAttribute_tag,
    valid.valueOf_of_mem valid.sender, sender]
  rfl

theorem activeCallTag_fields (item : TString) (fields : List (TString × TString)) :
    activeCallTag (element "item".toList [("id".toList, item)]
      ([element "active-call".toList [(xmlns, onsipActiveCallsEventXmlns)]
        ((fields.map Report.field).map Tag.node)].map Tag.node)) = some ⟨fields⟩ := by
  have texts : (fields.map Report.field).map (fun child => (child.name, child.cdata)) = fields := by
    have same : ∀ field : TString × TString,
        ((Report.field field).name, (Report.field field).cdata) = field := fun field =>
      Prod.ext rfl (cdata_textNodes field.1 [] field.2)
    rw [List.map_map]
    exact List.map_id'' same fields
  have found : (element "item".toList [("id".toList, item)]
      ([element "active-call".toList [(xmlns, onsipActiveCallsEventXmlns)]
        ((fields.map Report.field).map Tag.node)].map Tag.node)).findChildWith
          "active-call".toList xmlns onsipActiveCallsEventXmlns =
      some (element "active-call".toList [(xmlns, onsipActiveCallsEventXmlns)]
        ((fields.map Report.field).map Tag.node)) := by
    rw [Tag.findChildWith, children_element]
    rfl
  rw [activeCallTag, found, Option.map_some, children_element, texts]

/-- The item of a message about a call stands for the event of the notice. -/
theorem msgFactory_of_item (valid : notice.Valid) {item : ItemOperation}
    (notSubscribed : notice.report.isSubscribed = false)
    (noSubscription : XmppEventFactory.checkSubscribed notice.message = none)
    (only : XmppEventFactory.onlyItem notice.message = some item)
    (stands : item.event notice.failed = some notice.event) :
    XmppEventFactory.msgFactory notice.message = .ok (some notice.event) := by
  have failed : notice.message.hasError = notice.failed := rfl
  rw [XmppEventFactory.msgFactory_eq noSubscription, only, Option.bind_some, failed, stands]
  refine if_neg ?_
  rintro ⟨isError, lacks⟩
  rcases valid.hasTag isError with subscribed | typed
  · cases notSubscribed.symm.trans subscribed
  · exact typed (of_decide_eq_true lacks)

/-- What the factory of the events makes of the message -/
theorem Valid.msgFactory (valid : notice.Valid) :
    XmppEventFactory.msgFactory notice.message = .ok (some notice.event) := by
  obtain ⟨attribs, before, report, after⟩ := notice
  have content : report.tag.children = [report.content] := children_element _ _ _
  have events : pubSubEvent report.tag = readEvents [report.content] false ⟨.unknown, []⟩ := by
    rw [← content]
    rfl
  cases report with
  | activeCall node item fields =>
    have operation : (Report.activeCall node item fields).content.children.map itemOperation =
        [⟨false, item, some ⟨fields⟩⟩] := by
      rw [Report.content, children_element, List.map_singleton, itemOperation,
        activeCallTag_fields]
      rfl
    have read : readEvents [(Report.activeCall node item fields).content] false ⟨.unknown, []⟩ =
        ⟨.items, (Report.activeCall node item fields).content.children.map itemOperation⟩ := rfl
    rw [read, operation] at events
    refine @msgFactory_of_item _ valid ⟨false, item, some ⟨fields⟩⟩ rfl rfl ?_ rfl
    rw [XmppEventFactory.onlyItem, message, events]
    rfl
  | retract node item => exact @msgFactory_of_item _ valid ⟨true, item, none⟩ rfl rfl rfl rfl
  | subscribed node subid subscription => rfl

end Notice

/-! ### The stream -/

namespace Example

end Example

end JnTapi.Gloox
