import Phrasebook.Draft
import Phrasebook.Engine
import Phrasebook.Engine.Error
/-!
# Phrasebook.Engine.Callback

What the engine calls: the modules of an addon while it loads, and the listeners that are told of
each new phase. Both may call the engine back.

A callback is a tree of calls. Each call names what it asks for and goes on with what it is
answered, so a callback may decide anything by the answers it gets. The memory `σ` is whatever the
callbacks of one session share with each other.

Every callback comes to an end and leaves an outcome. There is none that runs forever, and none that
unwinds past the engine that called it: a module that panics in the middle of its load is not
covered.

What a callback may do depends on its **scope**. Only modules can stage registrations, and nothing
that runs on account of a notification can move the engine to another phase, because the
notification has yet to reach the other listeners.
-/

namespace Phrasebook

/-- On whose account a callback runs. -/
inductive Scope
  /-- A module of a load. -/
  | loading
  /-- A module of a load that a listener has started. -/
  | loadingInNotice
  /-- A listener. -/
  | notice
deriving DecidableEq

namespace Scope

/-- Whether there is a load to stage registrations for. -/
def stages : Scope → Bool
  | loading | loadingInNotice => true
  | notice => false

/-- Whether the callback may move the engine to another phase. -/
def advances : Scope → Bool
  | loading => true
  | loadingInNotice | notice => false

/-- The scope of the modules of a load that is started in this scope. -/
def nested : Scope → Scope
  | loading => loading
  | loadingInNotice | notice => loadingInNotice

@[simp] theorem advances_nested (s : Scope) : s.nested.advances = s.advances := by
  cases s <;> rfl

@[simp] theorem stages_nested (s : Scope) : s.nested.stages = true := by
  cases s <;> rfl

end Scope

/-- A callback: its next call, and how it goes on with the answer. -/
inductive Callback (σ : Type) : Scope → Type
  /-- Ends. A module that ends with an error fails its load; from a listener nobody hears. -/
  | done {s : Scope} (outcome : Except RegistryError Unit) : Callback σ s
  /-- Reads the shared memory. -/
  | recall {s : Scope} (next : σ → Callback σ s) : Callback σ s
  /-- Writes the shared memory. -/
  | remember {s : Scope} (memory : σ) (next : Callback σ s) : Callback σ s
  /-- Builds a descriptor. -/
  | build {s : Scope} (draft : Draft) (next : Except RegistryError Descriptor → Callback σ s) :
      Callback σ s
  /-- Stages a registration for the load. -/
  | stage {s : Scope} (inLoad : s.stages = true) (key : Key) (d : Descriptor)
      (next : Except RegistryError Unit → Callback σ s) : Callback σ s
  /-- Lists what the load has staged under exactly this key. -/
  | staged {s : Scope} (inLoad : s.stages = true) (key : Key)
      (next : List Descriptor → Callback σ s) : Callback σ s
  /-- Looks at the engine. -/
  | observe {s : Scope} (next : Engine → Callback σ s) : Callback σ s
  /-- Adds a listener for later phases. -/
  | listen {s : Scope} (listener : Phase → Callback σ .notice) (next : Callback σ s) : Callback σ s
  /-- Loads an addon with these modules. -/
  | load {s : Scope} (addon : Addon) (count : Nat) (modules : Fin count → Callback σ s.nested)
      (next : Except EngineError Unit → Callback σ s) : Callback σ s
  /-- Moves the engine to a later phase. -/
  | advance {s : Scope} (allowed : s.advances = true) (target : Phase)
      (next : Except EngineError Unit → Callback σ s) : Callback σ s

/-- A module of an addon. -/
abbrev Module (σ : Type) := Callback σ .loading

/-- Called with every phase that the engine enters after the listener was added. -/
abbrev Listener (σ : Type) := Phase → Callback σ .notice

namespace Callback

variable {σ : Type} {s : Scope}

/-- Loads an addon with a list of modules. -/
def loadAddon (addon : Addon) (modules : List (Callback σ s.nested))
    (next : Except EngineError Unit → Callback σ s) : Callback σ s :=
  .load addon modules.length modules.get next

/-- Changes the shared memory. -/
def update (f : σ → σ) (next : Callback σ s) : Callback σ s :=
  .recall fun memory => .remember (f memory) next

end Callback

end Phrasebook
