import Phrasebook.Registry.Writing
/-!
# Phrasebook.Registry

The registry: one register for each key name, created at the first write to it.

* A registration lands under the key and all its ancestors, or nowhere.
* The entries of a batch land all together, or none does.
* Closing freezes every register. Afterwards every write is refused, and reading a key gives the
  same snapshot for good.

Operations are functions from a registry to a `Reply`: the answer, the registry afterwards and the
events reported on the way.
-/

namespace Phrasebook

open Text

/-- All descriptors, by key. -/
structure Registry where
  closed : Bool
  slots : Slots

/-- What an operation on a registry leaves. -/
structure Reply (α : Type) where
  answer : Except RegistryError α
  registry : Registry
  /-- The events reported, in order. -/
  log : List Log.Event

namespace Registry

/-- Open, and nothing registered. -/
def empty : Registry := ⟨false, []⟩

/-! ### Reading -/

/-- The descriptors of a key, in match order. A key that was never written to has none. -/
def syntaxes (r : Registry) (key : Key) : Snapshot :=
  match r.slots.find? key.name with
  | some slot => slot.snapshot
  | none => .empty key.name

/-- The names of the keys that have a register, in order. -/
def keys (r : Registry) : List String := r.slots.names.mergeSort fun a b => a ≤ b

/-- The registers by key name, in the order of the names. -/
def contents (r : Registry) : List (String × Snapshot) :=
  (r.slots.map fun (name, slot) => (name, slot.snapshot)).mergeSort fun a b => a.1 ≤ b.1

/-! ### Writing -/

/-- The event of a registration that came after closing. -/
def registrationRejected (key : Key) (d : Descriptor) : Log.Event where
  level := .warn
  message := "registration rejected: registry closed"
  fields := [("key", key.name), ("syntax", idText d.id)]

/-- Registers a descriptor under a key and all its ancestors. -/
def register (r : Registry) (key : Key) (d : Descriptor) : Reply Unit :=
  if r.closed then
    ⟨.error (.registrationClosed (some key.name)), r, [registrationRejected key d]⟩
  else
    match (Writing.start r.slots).register key d with
    | (.ok (), w) => ⟨.ok (), { r with slots := w.slots }, w.log⟩
    | (.error e, w) => ⟨.error e, { r with slots := w.undo }, w.log⟩

/-- The event of a commit that came after closing. -/
def batchRejected (b : Batch) : Log.Event where
  level := .warn
  message := "batch rejected: registry closed"
  fields := [("staged", toString b.entries.length)]

/-- Registers every entry of a batch, or none. Answers how many there were. -/
def commit (r : Registry) (b : Batch) : Reply Nat :=
  if r.closed then ⟨.error (.registrationClosed none), r, [batchRejected b]⟩
  else
    match (Writing.start r.slots).registerAll b.entries with
    | (.ok (), w) => ⟨.ok b.entries.length, { r with slots := w.slots }, w.log⟩
    | (.error e, w) => ⟨.error e, { r with slots := w.undo }, w.log⟩

/-! ### Closing -/

/-- The event of closing. -/
def registryClosed (registers total : Nat) : Log.Event where
  level := .info
  message := "syntax registry closed"
  fields := [("registers", toString registers), ("syntaxes", toString total)]

/-- Freezes every register. The second time is refused. -/
def close (r : Registry) : Reply Unit :=
  if r.closed then ⟨.error (.registrationClosed none), r, []⟩
  else
    match r.slots.freeze with
    | (.error e, slots) => ⟨.error e, ⟨true, slots⟩, []⟩
    | (.ok total, slots) => ⟨.ok (), ⟨true, slots⟩, [registryClosed slots.length total]⟩

/-! ### Showing -/

/-- The inspection text. -/
def inspect (r : Registry) : String :=
  record "SyntaxRegistry"
    [("closed", truth r.closed), ("keys", listed (r.keys.map quoted))]

end Registry

/-! ### The read-only view -/

/-- A registry in the hands of those who may only read it. -/
structure RegistryView where
  inner : Registry

namespace RegistryView

/-- Always refused. -/
def register (_ : RegistryView) (key : Key) (_ : Descriptor) : Except RegistryError Unit :=
  .error (.registrationClosed (some key.name))

/-- The descriptors of a key, in match order. -/
def syntaxes (v : RegistryView) (key : Key) : Snapshot := v.inner.syntaxes key

/-- The names of the keys that have a register, in order. -/
def keys (v : RegistryView) : List String := v.inner.keys

/-- Whether the registry is closed. -/
def isClosed (v : RegistryView) : Bool := v.inner.closed

/-- The inspection text. -/
def inspect (v : RegistryView) : String :=
  record "UnmodifiableRegistry" [("inner", v.inner.inspect)]

end RegistryView

end Phrasebook
