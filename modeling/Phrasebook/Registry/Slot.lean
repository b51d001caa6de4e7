import Phrasebook.Register
/-!
# Phrasebook.Registry.Slot

The registers of a registry, one for each key name that was written to. A slot holds a live register
until the registry closes, and a frozen one from then on.
-/

namespace Phrasebook

/-- The register of one key name. -/
inductive Slot
  | live (r : Register)
  | frozen (r : FrozenRegister)

namespace Slot

/-- The current contents. -/
def snapshot : Slot → Snapshot
  | live r => r.snapshot
  | frozen r => r.snapshot

end Slot

/-- Registers by key name, in the order in which they were created. -/
abbrev Slots := List (String × Slot)

namespace Slots

/-- The register of that name. -/
def find? (slots : Slots) (name : String) : Option Slot := slots.lookup name

/-- Sets the register of that name, as the last one if there was none. -/
def put (name : String) (slot : Slot) : Slots → Slots
  | [] => [(name, slot)]
  | (n, s) :: rest => if n = name then (n, slot) :: rest else (n, s) :: put name slot rest

@[simp] theorem find?_put_self (name : String) (slot : Slot) (slots : Slots) :
    (slots.put name slot).find? name = some slot := by
  induction slots with
  | nil => simp [put, find?]
  | cons head rest ih =>
    obtain ⟨n, s⟩ := head
    rw [put]
    split
    next h => simp [find?, h]
    next h =>
      have hne : (name == n) = false := by simpa using Ne.symm h
      simpa [find?, List.lookup_cons, hne] using ih

theorem find?_put_of_ne {name other : String} (h : other ≠ name) (slot : Slot) (slots : Slots) :
    (slots.put name slot).find? other = slots.find? other := by
  induction slots with
  | nil =>
    have hne : (other == name) = false := by simpa using h
    simp [put, find?, List.lookup_cons, hne]
  | cons head rest ih =>
    obtain ⟨n, s⟩ := head
    rw [put]
    split
    next hn =>
      have hne : (other == n) = false := by simpa [hn] using h
      simp [find?, List.lookup_cons, hne]
    next =>
      simp only [find?, List.lookup_cons] at ih ⊢
      rw [ih]

/-- The names. -/
def names (slots : Slots) : List String := slots.map Prod.fst

/-- Freezes the registers one after the other and counts the descriptors in those it has frozen.
Stops at a register that refuses to be closed. -/
def freeze : Slots → Except RegistryError Nat × Slots
  | [] => (.ok 0, [])
  | (n, .frozen r) :: rest =>
    let (count, rest) := freeze rest
    (count, (n, .frozen r) :: rest)
  | (n, .live r) :: rest =>
    match r.close with
    | (.error e, r) => (.error e, (n, .live r) :: rest)
    | (.ok f, _) =>
      let (count, rest) := freeze rest
      (count.map (f.snapshot.entries.length + ·), (n, .frozen f) :: rest)

end Slots

end Phrasebook
