import Phrasebook.Addon.Submission
import Phrasebook.Config
/-!
# Phrasebook.Config.Launch

Starting an engine by its settings.
-/

namespace Phrasebook.Session

variable {σ : Type}

/-- Starts an engine with the addon that the settings name, and loads the submissions if the
settings ask for it. -/
def launch (config : Config) (modules : List (Module σ)) (submissions : List (Submission σ))
    (memory : σ) : Except EngineError Unit × Session σ :=
  match create config.core modules memory with
  | (.error e, s) => (.error e, s)
  | (.ok (), s) =>
    if config.collectSubmitted then
      match s.loadSubmitted submissions with
      | (.ok _, s) => (.ok (), s)
      | (.error e, s) => (.error e, s)
    else (.ok (), s)

end Phrasebook.Session
