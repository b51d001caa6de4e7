/-!
# Phrasebook.Log

What registries and engines report while they work.
-/

namespace Phrasebook.Log

/-- How much an event matters. -/
inductive Level
  | debug
  | info
  | warn
deriving DecidableEq

/-- The level's name. -/
def Level.name : Level → String
  | debug => "DEBUG"
  | info => "INFO"
  | warn => "WARN"

/-- One reported event: a message, and named values in a fixed order. -/
structure Event where
  level : Level
  message : String
  fields : List (String × String)
deriving DecidableEq

end Phrasebook.Log
