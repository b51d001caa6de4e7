import Phrasebook.Error
import Phrasebook.Lifecycle
/-!
# Phrasebook.Engine.Error

Why an engine refused an operation.
-/

namespace Phrasebook

/-- What goes wrong in an engine. -/
inductive EngineError
  /-- The registry refused a commit. -/
  | registry (cause : RegistryError)
  /-- The name belongs to an addon that is loaded or loading. -/
  | duplicateAddon (name : String)
  /-- Registration is not possible in that phase. -/
  | registrationClosed (phase : Phase)
  /-- The target is not later than the current phase. -/
  | invalidTransition (current target : Phase)
  /-- A module of that addon failed. -/
  | module (addon : String) (cause : RegistryError)
deriving DecidableEq

/-- The message of an error. -/
def EngineError.message : EngineError → String
  | registry cause => cause.message
  | duplicateAddon name => "an addon named '" ++ name ++ "' is already registered"
  | registrationClosed phase => "registration is closed (state: " ++ phase.name ++ ")"
  | invalidTransition current target => "cannot move from " ++ current.name ++ " to " ++ target.name
  | module addon cause => "module of addon '" ++ addon ++ "' failed: " ++ cause.message

end Phrasebook
