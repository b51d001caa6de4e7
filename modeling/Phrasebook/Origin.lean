/-!
# Phrasebook.Origin

Who contributed a descriptor. Origins serve diagnostics and documentation; matching never looks at
them.
-/

namespace Phrasebook

/-- The producer of a descriptor. -/
inductive Origin
  /-- No producer was recorded. -/
  | unknown
  /-- Contributed by the addon of that name. -/
  | addon (name : String)
deriving DecidableEq

namespace Origin

/-- The producer's name, `unknown` where none was recorded. -/
def name : Origin → String
  | unknown => "unknown"
  | addon n => n

/-- The form in which origins appear in logs. -/
def text : Origin → String
  | unknown => "unknown"
  | addon n => "addon:" ++ n

/-- Unrecorded producers come first, addons follow by name. -/
def before : Origin → Origin → Bool
  | unknown, unknown => false
  | unknown, addon _ => true
  | addon _, unknown => false
  | addon a, addon b => decide (a < b)

end Origin

end Phrasebook
