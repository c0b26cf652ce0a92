/-
This file models the part of the `OnSipXmpp` object that the handlers of both
machines use: the generator of ids, the login, the commands to the server and
the notifications of state changes.

Everything that leaves the object is an effect, and the object keeps its effects
in the order in which they happen: the commands it sends, the notifications it
gives and the events it deletes. The notifications also set the fields that
`OnSipXmpp` and `OnSipTapi` keep for their callers.
-/

import JnTapi.StateMachine
import JnTapi.Call.State
import JnTapi.Init.States

namespace JnTapi

/-- `LoginInfo` -/
structure LoginInfo where
  name : TString
  password : TString
  domain : TString
deriving DecidableEq, Repr

/-- `LoginInfo::SIPAddress` -/
def LoginInfo.sipAddress (login : LoginInfo) : TString :=
  Strings.formatAddress login.name login.domain

/-- What `CallStateChange` is given. -/
structure CallNotification where
  reason : StateChangeReason
  state : CallStates
  stateData : OnSipCallStateData
deriving DecidableEq, Repr

/-- What `InitStateChange` is given. -/
structure InitNotification where
  reason : StateChangeReason
  state : InitStates
deriving DecidableEq, Repr

/-- What the object does to the world outside the machines. -/
inductive Effect
  /-- The `create` command of `OnSipXmpp::CallNumber` -/
  | create (contextId : Long) (toField fromField callSetupId : TString)
  /-- The `terminate` command of `OnSipXmpp::DropCall` -/
  | terminate (contextId : Long) (sipCallId fromTag toTag : TString)
  /-- The `authorize-plain` command of `OnSipXmppBase::Authorize` -/
  | authorize (contextId : Long) (sipAddress password : TString)
  /-- The subscription of `OnSipXmppBase::SubscribeCallEvents` -/
  | subscribe (expireTime : TString)
  /-- The end of the subscription of `OnSipXmppBase::UnsubscribeCallEvents` -/
  | unsubscribe (contextId : Long) (subid : TString)
  /-- `OnSipXmppBase::getSubscriptions` -/
  | getSubscriptions
  /-- `OnSipXmppBase::Ping` -/
  | ping
  /-- A notification of the call machine -/
  | callStateChange (notification : CallNotification)
  /-- A notification of the login machine -/
  | initStateChange (notification : InitNotification)
  /-- An event is deleted. -/
  | deleted (event : XmppEvent)
  /-- The source reads through a null pointer; what it does from here on is not defined. -/
  | nullRead
deriving DecidableEq, Repr

/-- The effect is a notification of one of the two machines. -/
def Effect.isNotification : Effect → Bool
  | .callStateChange _ | .initStateChange _ => true
  | _ => false

/-- The effect is a command that creates or terminates a call. -/
def Effect.isCallCommand : Effect → Bool
  | .create _ _ _ _ | .terminate _ _ _ _ => true
  | _ => false

/-- The effect is a command that creates a call. -/
def Effect.isCreate : Effect → Bool
  | .create _ _ _ _ => true
  | _ => false

/-- The notification of the call machine that an effect is, if it is one. -/
def Effect.callNotification? : Effect → Option CallNotification
  | .callStateChange notification => some notification
  | _ => none

/-- The notifications of the call machine, in order. -/
def callNotifications (effects : List Effect) : List CallNotification :=
  effects.filterMap Effect.callNotification?

theorem callNotifications_append (first second : List Effect) :
    callNotifications (first ++ second) = callNotifications first ++ callNotifications second :=
  List.filterMap_append

/-- What the handlers reach through `m_pOnSipXmpp`. -/
structure Xmpp where
  ids : UniqueId
  /-- `m_login` -/
  login : LoginInfo
  /-- `m_lastInitState` -/
  lastInitState : InitStates
  /-- `m_lstInitEvents` -/
  lstInitEvents : List InitNotification
  /-- `m_lstCallEvents` -/
  lstCallEvents : List CallNotification
  /-- The effects so far, the oldest first. -/
  effects : List Effect
deriving DecidableEq, Repr

namespace Xmpp

/-- The object as its constructor leaves it. -/
def new (login : LoginInfo) : Xmpp := ⟨⟨0⟩, login, .notSet, [], [], []⟩

/-- The object does something more. -/
def emit (effect : Effect) (xmpp : Xmpp) : Xmpp :=
  { xmpp with effects := xmpp.effects ++ [effect] }

/-- `OnSipXmppBase::getUniqueId` -/
def getUniqueId (xmpp : Xmpp) : Long × Xmpp :=
  (xmpp.ids.getNextId.1, { xmpp with ids := xmpp.ids.getNextId.2 })

/-- `delete pEvent` -/
def deleteEvent (event : XmppEvent) (xmpp : Xmpp) : Xmpp := xmpp.emit (.deleted event)

/-- The deletion of the event that a state item holds, if it holds one. -/
def release (held : Option XmppEvent) (xmpp : Xmpp) : Xmpp :=
  match held with
  | some event => xmpp.deleteEvent event
  | none => xmpp

@[simp] theorem ids_release (held : Option XmppEvent) (xmpp : Xmpp) :
    (xmpp.release held).ids = xmpp.ids := by
  cases held <;> rfl

/-! ### Commands -/

/-- The number that `OnSipXmpp::CallNumber` dials: without an `@` its digits at the domain of
the login, else the address without the tone prefix of the Windows dialer. -/
def dialledNumber (number domain : TString) : TString :=
  if !Strings.contains number "@".toList then
    Strings.formatAddress (number.filter fun char => '0' ≤ char ∧ char ≤ '9') domain
  else if Strings.startsWith (Strings.tolower number) "tsip:".toList then number.drop 5
  else if Strings.startsWith (Strings.tolower number) "tsips:".toList then number.drop 6
  else number

/-- The To field of `OnSipXmpp::CallNumber` -/
def toField (number domain : TString) : TString :=
  let toNumber := dialledNumber number domain
  if !Strings.startsWith (Strings.tolower toNumber) "sip:".toList &&
      !Strings.startsWith (Strings.tolower toNumber) "sips:".toList then
    Strings.formatSip toNumber
  else toNumber

/-- The From field of `OnSipXmpp::CallNumber` -/
def fromField (login : LoginInfo) : TString := Strings.formatSip login.sipAddress

/-- `OnSipXmpp::CallNumber`, with the To and the From field that it returns -/
def callNumber (number : TString) (contextId : Long) (callSetupId : TString) (xmpp : Xmpp) :
    (TString × TString) × Xmpp :=
  let toNumber := toField number xmpp.login.domain
  let fromNumber := fromField xmpp.login
  ((toNumber, fromNumber), xmpp.emit (.create contextId toNumber fromNumber callSetupId))

/-- `OnSipXmpp::DropCall` -/
def dropCall (sipCallid fromTag toTag : TString) (contextId : Long) (xmpp : Xmpp) : Xmpp :=
  xmpp.emit (.terminate contextId sipCallid fromTag toTag)

/-- `OnSipXmppBase::Authorize` -/
def authorize (contextId : Long) (xmpp : Xmpp) : Xmpp :=
  xmpp.emit (.authorize contextId xmpp.login.sipAddress xmpp.login.password)

/-- `OnSipXmppBase::SubscribeCallEvents` -/
def subscribeCallEvents (expireTime : TString) (xmpp : Xmpp) : Xmpp :=
  xmpp.emit (.subscribe expireTime)

/-- `OnSipXmppBase::UnsubscribeCallEvents`. The context id is drawn after the request. -/
def unsubscribeCallEvents (subid : TString) (xmpp : Xmpp) : Long × Xmpp :=
  let (contextId, next) := xmpp.getUniqueId
  (contextId, next.emit (.unsubscribe contextId subid))

/-! ### Notifications -/

/-- `OnSipTapi::CallStateChange` -/
def callStateChange (notification : CallNotification) (xmpp : Xmpp) : Xmpp :=
  { xmpp with
    lstCallEvents := xmpp.lstCallEvents ++ [notification]
    effects := xmpp.effects ++ [.callStateChange notification] }

/-- `OnSipTapi::InitStateChange` and `OnSipXmpp::InitStateChange` -/
def initStateChange (notification : InitNotification) (xmpp : Xmpp) : Xmpp :=
  { xmpp with
    lastInitState := notification.state
    lstInitEvents := xmpp.lstInitEvents ++ [notification]
    effects := xmpp.effects ++ [.initStateChange notification] }

/-- The commands of calls that have been sent, in order -/
def callCommands (xmpp : Xmpp) : List Effect := xmpp.effects.filter Effect.isCallCommand

/-- The commands that create a call, in order -/
def creates (xmpp : Xmpp) : List Effect := xmpp.effects.filter Effect.isCreate

/-- The commands that create a call are among the commands of calls. -/
theorem creates_eq {first second : Xmpp} (same : first.callCommands = second.callCommands) :
    first.creates = second.creates := by
  have among : ∀ xmpp : Xmpp, xmpp.creates = xmpp.callCommands.filter Effect.isCreate := by
    intro xmpp
    rw [callCommands, List.filter_filter]
    refine List.filter_congr fun effect _ => ?_
    cases effect <;> rfl
  rw [among, among, same]

/-! ### What is added to the effects -/

/-- The object has done more, all of it of an allowed kind. -/
def Emits (allowed : Effect → Prop) (before after : Xmpp) : Prop :=
  ∃ more, after.effects = before.effects ++ more ∧ ∀ effect ∈ more, allowed effect

namespace Emits

variable {allowed : Effect → Prop} {first second third : Xmpp}

theorem of_eq (same : second.effects = first.effects) : Emits allowed first second :=
  ⟨[], by rw [same, List.append_nil], fun _ member => absurd member List.not_mem_nil⟩

theorem refl (xmpp : Xmpp) : Emits allowed xmpp xmpp := of_eq rfl

theorem trans (left : Emits allowed first second) (right : Emits allowed second third) :
    Emits allowed first third := by
  obtain ⟨leftMore, leftSplit, leftAllowed⟩ := left
  obtain ⟨rightMore, rightSplit, rightAllowed⟩ := right
  refine ⟨leftMore ++ rightMore, ?_, ?_⟩
  · rw [rightSplit, leftSplit, List.append_assoc]
  · intro effect member
    rcases List.mem_append.mp member with earlier | later
    · exact leftAllowed effect earlier
    · exact rightAllowed effect later

theorem mono {more : Effect → Prop} (emits : Emits allowed first second)
    (weaker : ∀ effect, allowed effect → more effect) : Emits more first second := by
  obtain ⟨added, split, all⟩ := emits
  exact ⟨added, split, fun effect member => weaker effect (all effect member)⟩

theorem emit {effect : Effect} (fine : allowed effect) (xmpp : Xmpp) :
    Emits allowed xmpp (xmpp.emit effect) :=
  ⟨[effect], rfl, fun _ member => List.mem_singleton.mp member ▸ fine⟩

/-- Effects that the kinds do not touch stay as they are. -/
theorem filter_eq (emits : Emits allowed first second) {kind : Effect → Bool}
    (apart : ∀ effect, allowed effect → kind effect = false) :
    second.effects.filter kind = first.effects.filter kind := by
  obtain ⟨more, split, all⟩ := emits
  have none : more.filter kind = [] :=
    List.filter_eq_nil_iff.mpr fun effect member => by simp [apart effect (all effect member)]
  rw [split, List.filter_append, none, List.append_nil]

end Emits

/-! ### Changes without a notification -/

/-- The object has drawn ids, sent commands and deleted events, and has notified nothing. -/
structure Quiet (before after : Xmpp) : Prop where
  draws : before.ids.draws ≤ after.ids.draws
  login : after.login = before.login
  lastInitState : after.lastInitState = before.lastInitState
  lstInitEvents : after.lstInitEvents = before.lstInitEvents
  lstCallEvents : after.lstCallEvents = before.lstCallEvents
  effects : ∃ more, after.effects = before.effects ++ more ∧
    ∀ effect ∈ more, effect.isNotification = false

theorem Quiet.refl (xmpp : Xmpp) : Quiet xmpp xmpp :=
  ⟨le_refl _, rfl, rfl, rfl, rfl, Emits.refl xmpp⟩

theorem Quiet.trans {first second third : Xmpp} (left : Quiet first second)
    (right : Quiet second third) : Quiet first third :=
  ⟨left.draws.trans right.draws, right.login.trans left.login,
    right.lastInitState.trans left.lastInitState, right.lstInitEvents.trans left.lstInitEvents,
    right.lstCallEvents.trans left.lstCallEvents, Emits.trans left.effects right.effects⟩

theorem quiet_emit (xmpp : Xmpp) {effect : Effect} (silent : effect.isNotification = false) :
    Quiet xmpp (xmpp.emit effect) :=
  ⟨le_refl _, rfl, rfl, rfl, rfl, Emits.emit silent xmpp⟩

theorem quiet_deleteEvent (event : XmppEvent) (xmpp : Xmpp) : Quiet xmpp (xmpp.deleteEvent event) :=
  xmpp.quiet_emit rfl

theorem quiet_release (held : Option XmppEvent) (xmpp : Xmpp) : Quiet xmpp (xmpp.release held) := by
  cases held with
  | none => exact Quiet.refl xmpp
  | some event => exact quiet_deleteEvent event xmpp

theorem quiet_getUniqueId (xmpp : Xmpp) : Quiet xmpp xmpp.getUniqueId.2 :=
  ⟨Nat.le_succ _, rfl, rfl, rfl, rfl, Emits.of_eq rfl⟩

/-- The object has done what a login does: nothing is notified, and no command of a call sent. -/
structure LoginOnly (before after : Xmpp) : Prop where
  quiet : Quiet before after
  emits : Emits (fun effect => effect.isCallCommand = false) before after

theorem LoginOnly.refl (xmpp : Xmpp) : LoginOnly xmpp xmpp := ⟨Quiet.refl xmpp, Emits.refl xmpp⟩

theorem LoginOnly.trans {first second third : Xmpp} (left : LoginOnly first second)
    (right : LoginOnly second third) : LoginOnly first third :=
  ⟨left.quiet.trans right.quiet, left.emits.trans right.emits⟩

theorem loginOnly_emit (xmpp : Xmpp) {effect : Effect} (silent : effect.isNotification = false)
    (apart : effect.isCallCommand = false) : LoginOnly xmpp (xmpp.emit effect) :=
  ⟨xmpp.quiet_emit silent, Emits.emit apart xmpp⟩

theorem loginOnly_deleteEvent (event : XmppEvent) (xmpp : Xmpp) :
    LoginOnly xmpp (xmpp.deleteEvent event) :=
  xmpp.loginOnly_emit rfl rfl

theorem loginOnly_getUniqueId (xmpp : Xmpp) : LoginOnly xmpp xmpp.getUniqueId.2 :=
  ⟨xmpp.quiet_getUniqueId, Emits.of_eq rfl⟩

theorem loginOnly_authorize (contextId : Long) (xmpp : Xmpp) :
    LoginOnly xmpp (xmpp.authorize contextId) :=
  xmpp.loginOnly_emit rfl rfl

theorem loginOnly_unsubscribeCallEvents (subid : TString) (xmpp : Xmpp) :
    LoginOnly xmpp (xmpp.unsubscribeCallEvents subid).2 :=
  xmpp.loginOnly_getUniqueId.trans (loginOnly_emit _ rfl rfl)

/-- What happens without a notification adds nothing to the notifications. -/
theorem Quiet.callNotifications_eq {before after : Xmpp} (quiet : Quiet before after) :
    callNotifications after.effects = callNotifications before.effects := by
  obtain ⟨more, split, silent⟩ := quiet.effects
  have none : callNotifications more = [] := by
    refine List.filterMap_eq_nil_iff.mpr fun effect member => ?_
    have noNotification := silent effect member
    cases effect with
    | callStateChange notification => cases noNotification
    | _ => rfl
  rw [split, callNotifications_append, none, List.append_nil]

/-- Ids may have been drawn, and the call machine has notified nothing. -/
structure CallsUnchanged (before after : Xmpp) : Prop where
  draws : before.ids.draws ≤ after.ids.draws
  notifications : callNotifications after.effects = callNotifications before.effects

theorem CallsUnchanged.trans {first second third : Xmpp} (left : CallsUnchanged first second)
    (right : CallsUnchanged second third) : CallsUnchanged first third :=
  ⟨left.draws.trans right.draws, right.notifications.trans left.notifications⟩

theorem Quiet.callsUnchanged {before after : Xmpp} (quiet : Quiet before after) :
    CallsUnchanged before after :=
  ⟨quiet.draws, quiet.callNotifications_eq⟩

theorem callsUnchanged_initStateChange (notification : InitNotification) (xmpp : Xmpp) :
    CallsUnchanged xmpp (xmpp.initStateChange notification) := by
  refine ⟨le_refl _, ?_⟩
  show callNotifications (xmpp.effects ++ [.initStateChange notification]) = _
  rw [callNotifications_append]
  exact List.append_nil _

end Xmpp

end JnTapi
