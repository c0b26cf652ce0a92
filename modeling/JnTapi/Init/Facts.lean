/-
This file proves what the handler of the login does to itself and to the object:
its methods notify nothing themselves, and a call of the login machine leaves the
notifications and the commands of the calls as they are.
-/

import Mathlib.Logic.Relation
import JnTapi.Frames
import JnTapi.Init.Handler

namespace JnTapi

namespace InitStateHandler

/-! ### What the methods do to the object -/

theorem loginOnly_prelogon (success : Bool) (reading : Reading) (handler : InitStateHandler)
    (event : XmppEvent) (xmpp : Xmpp) :
    xmpp.LoginOnly (handler.prelogon success reading event xmpp).2.2 := by
  unfold prelogon
  split_ifs
  · have requested : xmpp.getUniqueId.2.LoginOnly (xmpp.getUniqueId.2.emit .getSubscriptions) :=
      Xmpp.loginOnly_emit _ rfl rfl
    refine xmpp.loginOnly_getUniqueId.trans (requested.trans ?_)
    exact (Xmpp.loginOnly_authorize _ _).trans (Xmpp.loginOnly_deleteEvent event _)
  · exact Xmpp.loginOnly_deleteEvent event xmpp

theorem loginOnly_authorizing (reading : Reading) (handler : InitStateHandler) (event : XmppEvent)
    (xmpp : Xmpp) : xmpp.LoginOnly (handler.authorizing reading event xmpp).2.2 := by
  unfold authorizing
  split_ifs
  · split
    · exact (Xmpp.loginOnly_emit xmpp rfl rfl).trans (Xmpp.loginOnly_deleteEvent event _)
    · exact Xmpp.loginOnly_emit xmpp rfl rfl
  · exact Xmpp.loginOnly_deleteEvent event xmpp

theorem loginOnly_enabling (subid : TString) (reading : Reading) (handler : InitStateHandler)
    (event : XmppEvent) (xmpp : Xmpp) :
    xmpp.LoginOnly (handler.enabling subid reading event xmpp).2.2 := by
  unfold enabling
  split_ifs
  · exact Xmpp.loginOnly_deleteEvent event xmpp
  · exact Xmpp.loginOnly_deleteEvent event xmpp

theorem loginOnly_anyState (reading : Reading) (handler : InitStateHandler) (event : XmppEvent)
    (xmpp : Xmpp) : xmpp.LoginOnly (handler.anyState reading event xmpp).2.2 := by
  unfold anyState
  split
  · exact Xmpp.loginOnly_deleteEvent event xmpp
  · exact (xmpp.loginOnly_unsubscribeCallEvents _).trans (Xmpp.loginOnly_deleteEvent event _)
  · split_ifs
    · exact Xmpp.loginOnly_deleteEvent event xmpp
    · exact Xmpp.LoginOnly.refl xmpp
  · exact Xmpp.LoginOnly.refl xmpp

theorem loginOnly_isYourEvent (reading : Reading) (handler : InitStateHandler) (event : XmppEvent)
    (xmpp : Xmpp) : xmpp.LoginOnly (handler.isYourEvent reading event xmpp).2.2 := by
  unfold isYourEvent
  split
  · exact loginOnly_prelogon _ reading handler event xmpp
  · exact loginOnly_prelogon _ reading handler event xmpp
  · exact loginOnly_authorizing reading handler event xmpp
  · split_ifs
    · exact loginOnly_authorizing reading handler event xmpp
    · exact loginOnly_anyState reading handler event xmpp
  · exact loginOnly_enabling _ reading handler event xmpp
  · exact loginOnly_anyState reading handler event xmpp

theorem isStillExist_snd (handler : InitStateHandler) (xmpp : Xmpp) :
    (handler.isStillExist xmpp).2.2 = xmpp := by
  unfold isStillExist
  split_ifs <;> rfl

theorem loginOnly_handleReAuthorize (reading : Reading) (handler : InitStateHandler) (xmpp : Xmpp) :
    xmpp.LoginOnly (handler.handleReAuthorize reading xmpp).2.2 := by
  unfold handleReAuthorize
  split
  · exact (ReAuthorizeSubscribeWorker.new reading).loginOnly_execute xmpp
  · rename_i worker _
    have loginOnly := worker.loginOnly_isComplete xmpp
    split
    · rename_i outcome
      rw [outcome] at loginOnly
      split_ifs
      · exact loginOnly
      · exact loginOnly
    · rename_i outcome
      rw [outcome] at loginOnly
      split_ifs
      · exact loginOnly
      · exact loginOnly

theorem loginOnly_pollPing (reading : Reading) (handler : InitStateHandler) (xmpp : Xmpp) :
    xmpp.LoginOnly (handler.pollPing reading xmpp).2 := by
  unfold pollPing
  split_ifs
  · exact Xmpp.loginOnly_emit xmpp rfl rfl
  · exact Xmpp.LoginOnly.refl xmpp

/-- The rule of a poll. What holds of the handler and the object, and after the renewal, and is kept
by the ping and by the checks of the states, holds after the poll. -/
theorem pollStateHandler_rule {holds : InitStateHandler → Xmpp → Prop} {reading : Reading}
    {handler : InitStateHandler} {xmpp : Xmpp} (start : holds handler xmpp)
    (renewed : holds (handler.handleReAuthorize reading xmpp).2.1
      (handler.handleReAuthorize reading xmpp).2.2)
    (pinged : ∀ next later, holds next later →
      holds (next.pollPing reading later).1 (next.pollPing reading later).2)
    (checked : ∀ states next later, holds next later →
      holds (checkStateTimeouts reading states next).2 later) :
    holds (handler.pollStateHandler reading xmpp).2.1
      (handler.pollStateHandler reading xmpp).2.2 := by
  have first : holds (if handler.state = .ok ∧ handler.authTO.isExpired reading
      then handler.handleReAuthorize reading xmpp else (true, handler, xmpp)).2.1
      (if handler.state = .ok ∧ handler.authTO.isExpired reading
      then handler.handleReAuthorize reading xmpp else (true, handler, xmpp)).2.2 := by
    split_ifs
    · exact renewed
    · exact start
  unfold pollStateHandler
  split
  · rename_i outcome
    rw [outcome] at first
    exact first
  · rename_i next later outcome
    rw [outcome] at first
    exact checked _ _ _ (pinged next later first)

theorem loginOnly_pollStateHandler (reading : Reading) (handler : InitStateHandler) (xmpp : Xmpp) :
    xmpp.LoginOnly (handler.pollStateHandler reading xmpp).2.2 := by
  refine @pollStateHandler_rule (fun _ later => xmpp.LoginOnly later) reading handler xmpp
    (Xmpp.LoginOnly.refl xmpp) (loginOnly_handleReAuthorize reading handler xmpp) ?_ ?_
  · exact fun next later before => before.trans (loginOnly_pollPing reading next later)
  · exact fun _ _ _ before => before

/-! ### The moves of a handler -/

/-- One call of a method of the handler, or a reply or a message to its worker -/
inductive Moves : InitStateHandler → InitStateHandler → Prop
  | isYourEvent (reading : Reading) (handler : InitStateHandler) (event : XmppEvent)
      (xmpp : Xmpp) : Moves handler (handler.isYourEvent reading event xmpp).2.1
  | isStillExist (handler : InitStateHandler) (xmpp : Xmpp) :
      Moves handler (handler.isStillExist xmpp).2.1
  | pollStateHandler (reading : Reading) (handler : InitStateHandler) (xmpp : Xmpp) :
      Moves handler (handler.pollStateHandler reading xmpp).2.1
  | handleIqID (event : Option XmppEvent) (handler : InitStateHandler) :
      Moves handler (handler.handleIqID event)
  | handleMessage (event : XmppEvent) (handler : InitStateHandler) :
      Moves handler (handler.handleMessage event)

/-- The second handler is what the first has become. -/
abbrev Evolves : InitStateHandler → InitStateHandler → Prop := Relation.ReflTransGen Moves

end InitStateHandler

open InitStateHandler in
/-- What holds whatever the handlers do for the login and whatever they notify holds of every call
of the login machine. -/
theorem initVirtuals_changes {changes : Xmpp → Xmpp → Prop}
    (trans : ∀ {first second third}, changes first second → changes second third →
      changes first third)
    (loginOnly : ∀ {before after : Xmpp}, before.LoginOnly after → changes before after)
    (notified : ∀ notification xmpp, changes xmpp (xmpp.initStateChange notification)) :
    initVirtuals.Changes changes where
  refl xmpp := loginOnly (Xmpp.LoginOnly.refl xmpp)
  trans := trans
  isYourEvent reading handler event xmpp :=
    loginOnly (loginOnly_isYourEvent reading handler event xmpp)
  isStillExist _ handler xmpp :=
    (isStillExist_snd handler xmpp).symm ▸ loginOnly (Xmpp.LoginOnly.refl xmpp)
  pollStateHandler reading handler xmpp :=
    loginOnly (loginOnly_pollStateHandler reading handler xmpp)
  unknownEvent _ _ xmpp := loginOnly (Xmpp.LoginOnly.refl xmpp)
  onStateChange _ _ xmpp := notified _ xmpp
  preExecute _ _ xmpp := loginOnly (Xmpp.LoginOnly.refl xmpp)
  deleteEvent event xmpp := loginOnly (Xmpp.loginOnly_deleteEvent event xmpp)
  deleteHandler _ xmpp := loginOnly (Xmpp.LoginOnly.refl xmpp)

/-- Every call of the login machine draws ids and notifies no call. -/
theorem initVirtuals_callsUnchanged : initVirtuals.Changes Xmpp.CallsUnchanged :=
  initVirtuals_changes Xmpp.CallsUnchanged.trans (fun loginOnly => loginOnly.quiet.callsUnchanged)
    fun notification xmpp => xmpp.callsUnchanged_initStateChange notification

open InitStateHandler in
/-- Every call of the login machine moves its handlers on. -/
theorem initVirtuals_evolves : initVirtuals.Moves Evolves where
  refl _ := .refl
  trans := .trans
  isYourEvent reading handler event xmpp := .single (.isYourEvent reading handler event xmpp)
  isStillExist _ handler xmpp := .single (.isStillExist handler xmpp)
  pollStateHandler reading handler xmpp := .single (.pollStateHandler reading handler xmpp)
  unknownEvent _ _ _ := rfl
  preExecute _ _ _ := .refl

/-- Removing the handlers of the login does nothing else. -/
theorem removeStateHandlers_initVirtuals (handlers : List InitStateHandler) (xmpp : Xmpp) :
    StateMachine.removeStateHandlers initVirtuals handlers xmpp = ([], xmpp) := by
  show ([], handlers.foldl (fun xmpp _ => xmpp) xmpp) = ([], xmpp)
  rw [List.foldl_fixed]

end JnTapi
