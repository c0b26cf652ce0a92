/-
This file models the states of the login and the types they are sorted into.
-/

namespace JnTapi

/-- `OnSipInitStates::InitStates` -/
inductive InitStates
  | notSet
  | preLogin
  | loginError
  | authorizing
  | authorized
  | authorizedError
  | enablingCallEvents
  | ok
  | enabledCallError
  | disconnected
  | shuttingDown
  | shutDown
deriving DecidableEq, Repr

/-- `OnSipInitStatesType::InitStatesType` -/
inductive InitStatesType
  | notSet
  | inProgress
  | ok
  | fatal
  | disconnected
  | shutDown
deriving DecidableEq, Repr

/-- `OnSipInitStatesType::GetInitStatesType` -/
def getInitStatesType : InitStates → InitStatesType
  | .notSet => .notSet
  | .preLogin | .authorizing | .enablingCallEvents | .authorized => .inProgress
  | .loginError | .authorizedError | .enabledCallError => .fatal
  | .shuttingDown | .ok => .ok
  | .disconnected => .disconnected
  | .shutDown => .shutDown

/-- The state ends the wait for the login. -/
def InitStates.Decided (state : InitStates) : Prop :=
  getInitStatesType state = .ok ∨ getInitStatesType state = .fatal ∨
    getInitStatesType state = .disconnected

instance (state : InitStates) : Decidable state.Decided :=
  inferInstanceAs (Decidable (_ ∨ _ ∨ _))

end JnTapi
