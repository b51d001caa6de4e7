import Phrasebook.Error
/-!
# Phrasebook.Entry

The entries of a structure's body, and what becomes of them.

A structure may name a **validator** that looks at the body first: it either refuses the body or
says which entries are its own and which it leaves to the structure. The outcome is kept in a
**slot**, which is empty until a body was accepted and from then on holds the last accepted one.
-/

namespace Phrasebook

/-- One `key: value` line of a body. -/
structure Entry where
  key : String
  value : String
deriving DecidableEq

/-- An accepted body. -/
structure EntryContainer where
  /-- The entries that the validator claimed. -/
  entries : List Entry
  /-- The entries that are left to the structure. -/
  unhandled : List Entry
deriving DecidableEq

namespace EntryContainer

/-- The container of an empty body. -/
def empty : EntryContainer := ⟨[], []⟩

/-- Without a validator every entry is left to the structure. -/
def withoutValidator (entries : List Entry) : EntryContainer := ⟨[], entries⟩

/-- The value of the first claimed entry of that key. -/
def get? (c : EntryContainer) (key : String) : Option String :=
  (c.entries.find? fun e => e.key == key).map Entry.value

end EntryContainer

/-- Decides about bodies. Validators are told apart by their identity: two of them with the same
verdicts are still two. -/
structure EntryValidator where
  /-- Who the validator is. -/
  identity : String
  /-- The inspection text. -/
  inspect : String
  /-- The accepted body, or `none` to refuse it. -/
  validate : List Entry → Option EntryContainer

/-- The place where one parsed structure keeps its accepted body. -/
structure EntrySlot where
  container : Option EntryContainer

namespace EntrySlot

/-- A slot before any body was accepted. -/
def empty : EntrySlot := ⟨none⟩

/-- Whether a body was accepted. -/
def isFilled (s : EntrySlot) : Bool := s.container.isSome

/-- What the validator, or the lack of one, makes of a body. -/
def judge (validator : Option EntryValidator) (entries : List Entry) : Option EntryContainer :=
  match validator with
  | none => some (.withoutValidator entries)
  | some v => v.validate entries

/-- Offers a body. The answer says whether it was accepted; if it was not, the slot stays as it
is. -/
def fill (s : EntrySlot) (validator : Option EntryValidator) (entries : List Entry) :
    Bool × EntrySlot :=
  match judge validator entries with
  | some c => (true, ⟨some c⟩)
  | none => (false, s)

/-- The accepted body. -/
def contents (s : EntrySlot) : Except RegistryError EntryContainer :=
  match s.container with
  | some c => .ok c
  | none => .error (.uninitialized "structure entry container")

end EntrySlot

end Phrasebook
