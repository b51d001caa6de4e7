import Phrasebook.Log
import Phrasebook.Registry.Batch
import Phrasebook.Registry.Slot
/-!
# Phrasebook.Registry.Writing

Writes in progress. A descriptor goes to the register of its key first and to those of the ancestors
next, one at a time, and a batch is written entry by entry. So a write may have to stop halfway. It
keeps a list of what it inserted, latest first, and undoing it takes exactly that out again.

Two things are not undone: a register that was created for the write stays, and so do the events
that were reported for entries before the failing one.
-/

namespace Phrasebook

/-- One insertion: which register, which descriptor. -/
structure Insertion where
  name : String
  id : Nat
deriving DecidableEq

/-- How far a write has come. -/
structure Writing where
  slots : Slots
  /-- The insertions made, latest first. -/
  done : List Insertion
  log : List Log.Event

namespace Writing

/-- Before the first insertion. -/
def start (slots : Slots) : Writing := ⟨slots, [], []⟩

/-- The register of that name, created if it is absent. -/
def resolve (slots : Slots) (name : String) : Slot × Slots :=
  match slots.find? name with
  | some slot => (slot, slots)
  | none => (.live (.empty name), slots.put name (.live (.empty name)))

/-- Inserts a descriptor into one register. -/
def insert (w : Writing) (name : String) (d : Descriptor) : Except RegistryError Unit × Writing :=
  match resolve w.slots name with
  | (.frozen _, slots) => (.error (.registrationClosed (some name)), { w with slots })
  | (.live r, slots) =>
    match r.add d with
    | (.error e, _) => (.error e, { w with slots })
    | (.ok (), r) =>
      (.ok (), { w with slots := slots.put name (.live r), done := ⟨name, d.id⟩ :: w.done })

/-- Inserts a descriptor into the registers of these keys, one after the other. -/
def insertAll (w : Writing) (d : Descriptor) : List Key → Except RegistryError Unit × Writing
  | [] => (.ok (), w)
  | link :: rest =>
    match w.insert link.name d with
    | (.ok (), w) => w.insertAll d rest
    | (.error e, w) => (.error e, w)

/-- Whether every key takes the payload; the first that does not is named in the refusal. -/
def check (p : Payload) : List Key → Except RegistryError Unit
  | [] => .ok ()
  | link :: rest => if link.accepts p then check p rest else .error (link.mismatch p)

/-- The event of a registration. -/
def registered (key : Key) (d : Descriptor) : Log.Event where
  level := .debug
  message := "registered syntax"
  fields :=
    [("key", key.name), ("syntax", idText d.id), ("priority", d.priority.text),
      ("origin", d.origin.text)]

/-- Writes a descriptor under a key and all its ancestors. Kinds are checked before anything is
inserted. -/
def register (w : Writing) (key : Key) (d : Descriptor) : Except RegistryError Unit × Writing :=
  match check d.payload key.lineage with
  | .error e => (.error e, w)
  | .ok () =>
    match w.insertAll d key.lineage with
    | (.error e, w) => (.error e, w)
    | (.ok (), w) => (.ok (), { w with log := w.log ++ [registered key d] })

/-- Writes the entries of a batch, one after the other. -/
def registerAll (w : Writing) : List Staged → Except RegistryError Unit × Writing
  | [] => (.ok (), w)
  | e :: rest =>
    match w.register e.key e.descriptor with
    | (.ok (), w) => w.registerAll rest
    | (.error e, w) => (.error e, w)

/-- Takes one insertion back. -/
def retract (slots : Slots) (i : Insertion) : Slots :=
  match slots.find? i.name with
  | some (.live r) => slots.put i.name (.live (r.retract i.id))
  | _ => slots

/-- Takes all insertions back, latest first. -/
def undo (w : Writing) : Slots := w.done.foldl retract w.slots

end Writing

end Phrasebook
