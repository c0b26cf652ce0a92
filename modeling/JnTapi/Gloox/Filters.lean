/-
This file proves what the registered filters find in a stanza, and which extension of a type
the program gets.

Every filter is a union of paths, so that a filter finds what one of its paths leads to. Since
a type is registered once, the first extension of a type is made of the first tag that the
filter of the type finds.
-/

import JnTapi.Gloox.Paths
import JnTapi.Gloox.Stanza

namespace JnTapi.Gloox

open XPath

/-! ### The filters as paths -/

/-- A step without a test -/
def step (name : String) : Step := ⟨name.toList, []⟩

/-- A step that tests the namespace -/
def stepIn (name namespaceName : String) : Step :=
  ⟨name.toList, [⟨xmlns, namespaceName.toList⟩]⟩

namespace ExtensionType

/-- The first path of the filter, and the others -/
def filterPaths : ExtensionType → List Step × List (List Step)
  | error => ([step "iq", step "error"],
      ["message", "presence", "subscription"].map fun name => [step name, step "error"])
  | ping => ([step "iq", stepIn "ping" "urn:xmpp:ping"], [])
  | roster => ([step "iq", stepIn "query" "jabber:iq:roster"], [])
  | resourceBind => ([step "iq", stepIn "bind" "urn:ietf:params:xml:ns:xmpp-bind"],
      [[step "iq", stepIn "unbind" "urn:ietf:params:xml:ns:xmpp-bind"]])
  | caps => ([step "presence", stepIn "c" "http://jabber.org/protocol/caps"], [])
  | discoInfo => ([step "iq", stepIn "query" "http://jabber.org/protocol/disco#info"], [])
  | discoItems => ([step "iq", stepIn "query" "http://jabber.org/protocol/disco#items"], [])
  | version => ([step "iq", stepIn "query" "jabber:iq:version"], [])
  | dataForm => ([step "message", stepIn "x" "jabber:x:data"], [])
  | adhocCommand => ([step "iq", stepIn "command" "http://jabber.org/protocol/commands"], [])
  | pubSub => ([step "iq", stepIn "pubsub" "http://jabber.org/protocol/pubsub"], [])
  | pubSubOwner => ([step "iq", stepIn "pubsub" "http://jabber.org/protocol/pubsub#owner"], [])
  | pubSubEvent => ([step "message", stepIn "event" "http://jabber.org/protocol/pubsub#event"], [])
  | shim => ([step "presence", stepIn "headers" "http://jabber.org/protocol/shim"],
      [[step "message", stepIn "headers" "http://jabber.org/protocol/shim"],
        [step "iq", step "*", stepIn "headers" "http://jabber.org/protocol/shim"]])
  | pubSubSubscribed => ([step "message", step "event", step "subscription"], [])

theorem filterString_eq (type : ExtensionType) :
    type.filterString = unionText (type.filterPaths.1 :: type.filterPaths.2) := by
  cases type <;> decide +kernel

theorem valid_filterPaths (type : ExtensionType) :
    ∀ steps ∈ type.filterPaths.1 :: type.filterPaths.2, ValidPath steps := by
  cases type <;> decide +kernel

/-- What the filter of the type finds in a stanza -/
def finds (type : ExtensionType) (stanza : Tag) : Found :=
  selectUnion type.filterPaths.2 (select type.filterPaths.1 stanza) stanza

theorem findTagList_filterString (type : ExtensionType) (stanza : Tag) :
    findTagList type.filterString stanza = some (type.finds stanza) := by
  rw [filterString_eq]
  exact findTagList_unionText type.valid_filterPaths stanza

theorem extensionType_newInstance (type : ExtensionType) (stanza tag : Tag) :
    (type.newInstance stanza tag).extensionType = type := by
  cases type <;> rfl

end ExtensionType

/-! ### Extensions of a stanza -/

/-- What the filter of a type makes of a stanza -/
def ExtensionType.makes (stanza : Tag) (type : ExtensionType) : List StanzaExtension :=
  (type.finds stanza).map fun new => type.newInstance stanza new.2

/-- No filter is left out. -/
theorem addExtensions_eq (stanza : Tag) (factory : List ExtensionType) :
    addExtensions stanza factory = some (factory.flatMap (·.makes stanza)) := by
  induction factory with
  | nil => rfl
  | cons type factory inductionHypothesis =>
    rw [addExtensions, type.findTagList_filterString, inductionHypothesis, List.flatMap_cons]
    rfl

theorem extensionType_of_mem_makes {stanza : Tag} {type : ExtensionType}
    {extension : StanzaExtension} (member : extension ∈ type.makes stanza) :
    extension.extensionType = type := by
  obtain ⟨new, -, rfl⟩ := List.mem_map.mp member
  exact type.extensionType_newInstance stanza new.2

theorem findExtension_eq_none {factory : List ExtensionType} {type : ExtensionType}
    (absent : type ∉ factory) (stanza : Tag) :
    findExtension type (factory.flatMap (·.makes stanza)) = none := by
  refine List.find?_eq_none.mpr fun extension member same => absent ?_
  obtain ⟨other, memberOther, made⟩ := List.mem_flatMap.mp member
  rwa [← of_decide_eq_true same, extensionType_of_mem_makes made]

/-- The first extension of a type that is registered once -/
theorem findExtension_eq {factory : List ExtensionType} (nodup : factory.Nodup)
    {type : ExtensionType} (member : type ∈ factory) (stanza : Tag) :
    findExtension type (factory.flatMap (·.makes stanza)) =
      (type.finds stanza).head?.map fun new => type.newInstance stanza new.2 := by
  induction factory with
  | nil => exact absurd member List.not_mem_nil
  | cons first factory inductionHypothesis =>
    rw [List.nodup_cons] at nodup
    rw [List.flatMap_cons, findExtension, List.find?_append]
    by_cases same : first = type
    · subst same
      have others : (factory.flatMap (·.makes stanza)).find?
          (fun extension => extension.extensionType = first) = none :=
        findExtension_eq_none nodup.1 stanza
      rw [others, Option.or_none, ExtensionType.makes]
      cases first.finds stanza with
      | nil => rfl
      | cons new found =>
        rw [List.map_cons, List.find?_cons, first.extensionType_newInstance, decide_eq_true rfl]
        rfl
    · have own : (first.makes stanza).find? (fun extension => extension.extensionType = type) =
          none := List.find?_eq_none.mpr fun extension made isType =>
        same ((extensionType_of_mem_makes made).symm.trans (of_decide_eq_true isType))
      rw [own, Option.none_or]
      exact inductionHypothesis nodup.2 ((List.mem_cons.mp member).resolve_left (Ne.symm same))

theorem nodup_registered : registered.Nodup := by decide

/-- The extensions of a stanza -/
def extensionsOf (stanza : Tag) : List StanzaExtension := registered.flatMap (·.makes stanza)

theorem findExtension_extensionsOf {type : ExtensionType} (member : type ∈ registered)
    (stanza : Tag) : findExtension type (extensionsOf stanza) =
      (type.finds stanza).head?.map fun new => type.newInstance stanza new.2 :=
  findExtension_eq nodup_registered member stanza

/-! ### What the program reads of a message -/

theorem map_snd_select {first next : Step} {rest : List Step} (tag : Tag) :
    (select (first :: next :: rest) tag).map Prod.snd =
      if first.matches tag then
        tag.children.flatMap fun child => (select (next :: rest) child).map Prod.snd
      else [] := by
  rw [select]
  split_ifs
  · have same : ∀ (children : List Tag) (start : Nat),
        ((children.zipIdx start).flatMap fun child =>
          onWay [child.2] (select (next :: rest) child.1)).map Prod.snd =
        children.flatMap fun child => (select (next :: rest) child).map Prod.snd := by
      intro children
      induction children with
      | nil => exact fun _ => rfl
      | cons child children inductionHypothesis =>
        intro start
        rw [List.zipIdx_cons, List.flatMap_cons, List.map_append, inductionHypothesis,
          List.flatMap_cons, onWay, List.map_map]
        rfl
    exact same tag.children 0
  · rfl

theorem map_snd_select_child (first last : Step) (tag : Tag) :
    (select [first, last] tag).map Prod.snd =
      if first.matches tag then tag.children.filter last.matches else [] := by
  rw [map_snd_select]
  refine if_congr Iff.rfl ?_ rfl
  induction tag.children with
  | nil => rfl
  | cons child children inductionHypothesis =>
    rw [List.flatMap_cons, List.filter_cons, inductionHypothesis, select]
    split_ifs <;> rfl

theorem matches_step {name : String} (notStar : name.toList ≠ ['*']) (tag : Tag) :
    (step name).matches tag = decide (tag.name = name.toList) := by
  have star : decide ((step name).name = ['*']) = false := decide_eq_false notStar
  rw [Step.matches, star, Bool.or_false]
  exact (Bool.and_true _).trans (decide_eq_decide.mpr eq_comm)

theorem matches_stepIn {name : String} (notStar : name.toList ≠ ['*']) (namespaceName : String)
    (tag : Tag) : (stepIn name namespaceName).matches tag =
      decide (tag.name = name.toList ∧ tag.findAttribute xmlns = namespaceName.toList) := by
  have star : decide ((stepIn name namespaceName).name = ['*']) = false := decide_eq_false notStar
  rw [Step.matches, star, Bool.or_false, Bool.decide_and]
  exact congrArg₂ _ (decide_eq_decide.mpr eq_comm) (Bool.and_true _)

/-- The first tag that the filter of a type finds in a message -/
theorem head_finds {type : ExtensionType} {tag : Tag} :
    ((type.finds tag).head?.map fun new => type.newInstance tag new.2) =
      ((type.finds tag).map Prod.snd).head?.map (type.newInstance tag) := by
  rw [List.head?_map, Option.map_map]
  rfl

variable {tag : Tag}

theorem select_of_other {name : String} (notStar : name.toList ≠ ['*'])
    (other : tag.name ≠ name.toList) (next : Step) (rest : List Step) :
    select (step name :: next :: rest) tag = [] := by
  have fails : (step name).matches tag = false := by
    rw [matches_step notStar]
    exact decide_eq_false other
  rw [select, fails]
  rfl

/-- A message has an error when one of its children is one. -/
theorem isSome_error (named : tag.name = "message".toList) :
    (findExtension .error (extensionsOf tag)).isSome =
      tag.children.any fun child => child.name = "error".toList := by
  have other : ∀ name : String, name.toList ≠ ['*'] → name.toList ≠ "message".toList →
      select [step name, step "error"] tag = [] := fun name notStar different =>
    select_of_other notStar (fun same => different (same.symm.trans named)) _ _
  have found : ExtensionType.error.finds tag = select [step "message", step "error"] tag := by
    have union : ExtensionType.error.finds tag =
        add (add (add (select [step "iq", step "error"] tag)
          (select [step "message", step "error"] tag))
          (select [step "presence", step "error"] tag))
          (select [step "subscription", step "error"] tag) := rfl
    rw [union, other "iq" (by decide) (by decide), other "presence" (by decide) (by decide),
      other "subscription" (by decide) (by decide), add_nil (distinct_select _ _)]
    rfl
  rw [findExtension_extensionsOf (by decide), head_finds, found, map_snd_select_child,
    matches_step (by decide), named, decide_eq_true rfl, if_pos rfl, Option.isSome_map]
  induction tag.children with
  | nil => rfl
  | cons child children inductionHypothesis =>
    rw [List.filter_cons, List.any_cons, matches_step (by decide)]
    cases decide (child.name = "error".toList) with
    | true => rfl
    | false => exact inductionHypothesis

/-- The notification of a message is its first child of the kind. -/
theorem pubSubEventOf_eq (named : tag.name = "message".toList) :
    pubSubEventOf (extensionsOf tag) = (tag.children.find? fun child =>
      child.name = "event".toList ∧ child.findAttribute xmlns = xmlnsPubSubEvent).map
        pubSubEvent := by
  have found : (ExtensionType.pubSubEvent.finds tag).map Prod.snd =
      tag.children.filter fun child =>
        child.name = "event".toList ∧ child.findAttribute xmlns = xmlnsPubSubEvent := by
    have path : ExtensionType.pubSubEvent.finds tag = select [step "message",
      stepIn "event" "http://jabber.org/protocol/pubsub#event"] tag := rfl
    rw [path, map_snd_select_child, matches_step (by decide), named, decide_eq_true rfl,
      if_pos rfl]
    exact List.filter_congr fun child _ => matches_stepIn (by decide) _ child
  rw [pubSubEventOf, findExtension_extensionsOf (by decide), head_finds, found,
    List.head?_filter]
  cases tag.children.find? fun child =>
      child.name = "event".toList ∧ child.findAttribute xmlns = xmlnsPubSubEvent with
  | none => rfl
  | some event => rfl

/-- The subscription of a message is the first in an event. -/
theorem subscribedOf_eq (named : tag.name = "message".toList) :
    subscribedOf (extensionsOf tag) =
      ((tag.children.filter fun child => child.name = "event".toList).flatMap fun event =>
        event.children.filter fun child => child.name = "subscription".toList).head?.map
          pubSubSubscribed := by
  have found : (ExtensionType.pubSubSubscribed.finds tag).map Prod.snd =
      (tag.children.filter fun child => child.name = "event".toList).flatMap fun event =>
        event.children.filter fun child => child.name = "subscription".toList := by
    have path : ExtensionType.pubSubSubscribed.finds tag =
      select [step "message", step "event", step "subscription"] tag := rfl
    rw [path, map_snd_select, matches_step (by decide), named, decide_eq_true rfl, if_pos rfl]
    induction tag.children with
    | nil => rfl
    | cons child children inductionHypothesis =>
      rw [List.flatMap_cons, inductionHypothesis, List.filter_cons, map_snd_select_child,
        matches_step (by decide)]
      cases decide (child.name = "event".toList) with
      | false => rfl
      | true =>
        rw [if_pos rfl, if_pos rfl, List.flatMap_cons]
        exact congrArg (· ++ _) (List.filter_congr fun child _ => matches_step (by decide) child)
  rw [subscribedOf, findExtension_extensionsOf (by decide), head_finds, found]
  cases ((tag.children.filter fun child => child.name = "event".toList).flatMap fun event =>
    event.children.filter fun child => child.name = "subscription".toList).head? with
  | none => rfl
  | some subscription => rfl

/-- A message goes to the handlers of messages. -/
theorem handleTag_message (named : tag.name = "message".toList)
    (client : tag.xmlnsBelow [] = [] ∨ tag.xmlnsBelow [] = xmlnsClient) :
    handleTag tag = some (.message (messageOf tag (extensionsOf tag))) := by
  have notNormal : isNormalNode tag = false := by
    rw [isNormalNode, named]
    rfl
  have extensions : addExtensions tag registered = some (extensionsOf tag) :=
    addExtensions_eq tag registered
  rw [handleTag, named, notNormal, extensions]
  rw [if_neg (fun stream => absurd stream.1 (by decide)),
    if_neg (fun error => absurd error.1 (by decide)), if_neg Bool.false_ne_true, if_pos client,
    if_neg (by decide), if_pos rfl]
  rfl

end JnTapi.Gloox
