import Phrasebook.Descriptor
import Phrasebook.Key
/-!
# Phrasebook.Registry.Batch

Registrations that are put aside, to be committed together or not at all. Kinds are checked as the
batch is filled, so the commit does not fail for them.
-/

namespace Phrasebook

open Text

/-- A descriptor, and the key it is to be registered under. -/
structure Staged where
  key : Key
  descriptor : Descriptor

/-- Staged registrations, in the order of staging. -/
structure Batch where
  entries : List Staged

namespace Batch

/-- Nothing staged. -/
def empty : Batch := ⟨[]⟩

/-- Stages a descriptor. The nearest link of the key's lineage that does not take it is named in the
refusal. -/
def push (b : Batch) (key : Key) (d : Descriptor) : Except RegistryError Unit × Batch :=
  match key.lineage.find? fun link => !link.accepts d.payload with
  | some link => (.error (link.mismatch d.payload), b)
  | none => (.ok (), ⟨b.entries ++ [⟨key, d⟩]⟩)

/-- A batch takes what the key and all its ancestors take. -/
theorem push_ok_iff {b : Batch} {key : Key} {d : Descriptor} :
    (b.push key d).1 = .ok () ↔ ∀ link ∈ key.lineage, link.accepts d.payload = true := by
  rw [push]
  split
  next link h =>
    have hm := List.mem_of_find?_eq_some h
    have hp := List.find?_some h
    simp only [reduceCtorEq, false_iff]
    intro hall
    simp [hall link hm] at hp
  next h =>
    simpa using h

/-- What was staged under exactly this key; its ancestors are other keys. -/
def staged (b : Batch) (key : Key) : List Descriptor :=
  (b.entries.filter fun e => e.key == key).map Staged.descriptor

/-- The inspection text. -/
def inspect (b : Batch) : String :=
  record "RegistrationBatch" [("len", toString b.entries.length)]

end Batch

end Phrasebook
