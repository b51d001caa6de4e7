import Phrasebook.Origin
import Phrasebook.Path
/-!
# Phrasebook.Addon

Addons, the named producers of productions.
-/

namespace Phrasebook

/-- A named producer. -/
structure Addon where
  name : String
  /-- Where it keeps its data files. The engine does not look there. -/
  dataDirectory : Option Path
  /-- Where it keeps its language files. The engine does not look there. -/
  languageDirectory : Option Path
deriving BEq

namespace Addon

/-- An addon without directories. -/
def ofName (name : String) : Addon := ⟨name, none, none⟩

/-- The origin to record on what the addon contributes. -/
def origin (a : Addon) : Origin := .addon a.name

end Addon

end Phrasebook
