import Phrasebook.Addon
import Phrasebook.Lifecycle
import Phrasebook.Registry
/-!
# Phrasebook.Engine

The engine: owner of one registry, of the addons that fill it and of the phase it is in. The engine
is itself an addon, and the first one to load.

Addon names are unique for the engine's life. A name is **reserved** from the start of its load on.
A load that fails gives it back, a load that succeeds keeps it.
-/

namespace Phrasebook

open Text

/-- One engine at one moment. -/
structure Engine where
  /-- The engine's own addon. -/
  addon : Addon
  registry : Registry
  phase : Phase
  /-- The names of addons that are loaded or loading. -/
  reserved : List String
  /-- The loaded addons, in load order. -/
  loaded : List Addon

namespace Engine

/-- An engine before its own modules have loaded. -/
def start (core : Addon) : Engine := ⟨core, .empty, .registration, [], []⟩

/-- The registry, to read from. -/
def view (e : Engine) : RegistryView := ⟨e.registry⟩

/-- The descriptors of a key, in match order. -/
def syntaxes (e : Engine) (key : Key) : Snapshot := e.registry.syntaxes key

/-- Whether a load may start or commit now. -/
def accepts (e : Engine) : Bool := e.phase.acceptsRegistration

/-- Takes a name for a load. -/
def reserve (e : Engine) (name : String) : Engine := { e with reserved := name :: e.reserved }

/-- Gives the name of a failed load back. -/
def release (e : Engine) (name : String) : Engine :=
  { e with reserved := e.reserved.filter fun n => n != name }

/-- Puts an addon behind the loaded ones. -/
def addLoaded (e : Engine) (addon : Addon) : Engine := { e with loaded := e.loaded ++ [addon] }

/-- The inspection text. -/
def inspect (e : Engine) : String :=
  openRecord "Engine"
    [("addon", quoted e.addon.name), ("state", e.phase.inspect), ("registry", e.registry.inspect)]

end Engine

end Phrasebook
