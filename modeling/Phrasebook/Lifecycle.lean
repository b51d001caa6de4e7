/-!
# Phrasebook.Lifecycle

The phases of an engine's life. They only move forward, in the order given here, and registration
is possible in the first two.
-/

namespace Phrasebook

/-- A phase of an engine's life. -/
inductive Phase
  /-- The first one; the engine's own modules load here. -/
  | registration
  /-- Addons may load. -/
  | addonRegistration
  /-- No more writes; derived tables are built here. -/
  | endedRegistration
  /-- The registers are frozen for good. -/
  | closedRegistration
deriving DecidableEq

namespace Phase

/-- All phases, in order. -/
def all : List Phase := [registration, addonRegistration, endedRegistration, closedRegistration]

/-- The place in the order. -/
def index : Phase → Nat
  | registration => 0
  | addonRegistration => 1
  | endedRegistration => 2
  | closedRegistration => 3

instance : LT Phase := ⟨fun a b => a.index < b.index⟩

instance : LE Phase := ⟨fun a b => a.index ≤ b.index⟩

theorem lt_iff {a b : Phase} : a < b ↔ a.index < b.index := Iff.rfl

theorem le_iff {a b : Phase} : a ≤ b ↔ a.index ≤ b.index := Iff.rfl

instance (a b : Phase) : Decidable (a < b) := decidable_of_iff _ lt_iff.symm

instance (a b : Phase) : Decidable (a ≤ b) := decidable_of_iff _ le_iff.symm

/-- Whether addons and modules may still register. -/
def acceptsRegistration : Phase → Bool
  | registration | addonRegistration => true
  | endedRegistration | closedRegistration => false

/-- The phase's name in messages and logs. -/
def name : Phase → String
  | registration => "registration"
  | addonRegistration => "addon registration"
  | endedRegistration => "ended registration"
  | closedRegistration => "closed registration"

/-- The inspection text. -/
def inspect : Phase → String
  | registration => "Registration"
  | addonRegistration => "AddonRegistration"
  | endedRegistration => "EndedRegistration"
  | closedRegistration => "ClosedRegistration"

/-- The phases to enter on the way from one to another: those after the first, up to and including
the second. -/
def pathTo (a b : Phase) : List Phase := all.filter fun p => a < p ∧ p ≤ b

end Phase

end Phrasebook
