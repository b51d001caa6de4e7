import Phrasebook.Element
import Phrasebook.Origin
import Phrasebook.Payload
/-!
# Phrasebook.Descriptor

Descriptors, the unit of registration: one production of the scripting language, with the patterns
that match it, the element that implements it and its place among the others.

Descriptors do not change once they are built. Every build draws an **id** of its own; registers
tell descriptors apart by it and break ties between equal priorities with it.
-/

namespace Phrasebook

open Text

/-- One registrable production. -/
structure Descriptor where
  /-- Drawn at the build, never twice. There is no bound on it, see `Supply.drawId`. -/
  id : Nat
  origin : Origin
  /-- The type that implements the production. -/
  element : HostType
  factory : Factory
  /-- Whether the producer brought a factory of its own. -/
  customFactory : Bool
  /-- In the order in which the matcher tries them. -/
  patterns : List String
  priority : Priority
  payload : Payload

namespace Descriptor

/-- The element of the factory's next call, when `calls` were made before. -/
def make (d : Descriptor) (calls : Nat) : Element := d.factory calls

/-- Expression data, if this is an expression. -/
def expression? (d : Descriptor) : Option ExpressionInfo :=
  match d.payload with
  | .expression info => some info
  | _ => none

/-- Structure data, if this is a structure. Events, which have no validator, are none. -/
def structure? (d : Descriptor) : Option StructureInfo :=
  match d.payload with
  | .struct info => some info
  | _ => none

/-- Event data, if this is an event. -/
def event? (d : Descriptor) : Option EventInfo :=
  match d.payload with
  | .event info => some info
  | _ => none

/-- The validator of a structure that has one. -/
def validator? (d : Descriptor) : Option EntryValidator := d.structure?.bind StructureInfo.validator

/-! ### The order of registers -/

/-- Whether `a` stands before `b`: by priority, then by id. -/
def Precedes (a b : Descriptor) : Prop :=
  a.priority < b.priority ∨ a.priority = b.priority ∧ a.id < b.id

instance (a b : Descriptor) : Decidable (a.Precedes b) :=
  inferInstanceAs (Decidable (_ ∨ _))

/-- Whether `a` and `b` stand at the very same place. Since no id is drawn twice, they are then the
same descriptor. -/
def SamePlace (a b : Descriptor) : Prop := a.priority = b.priority ∧ a.id = b.id

instance (a b : Descriptor) : Decidable (a.SamePlace b) := inferInstanceAs (Decidable (_ ∧ _))

theorem Precedes.irrefl (a : Descriptor) : ¬ a.Precedes a := by
  simp [Precedes, Priority.lt_irrefl]

theorem Precedes.trans {a b c : Descriptor} (hab : a.Precedes b) (hbc : b.Precedes c) :
    a.Precedes c := by
  rcases hab with h | ⟨h, hi⟩ <;> rcases hbc with g | ⟨g, gi⟩
  · exact .inl (Priority.lt_trans h g)
  · exact .inl (g ▸ h)
  · exact .inl (h ▸ g)
  · exact .inr ⟨h.trans g, by omega⟩

/-- Of two descriptors one stands before the other, unless they stand at the same place. -/
theorem precedes_trichotomy (a b : Descriptor) : a.Precedes b ∨ a.SamePlace b ∨ b.Precedes a := by
  rcases Priority.lt_trichotomy a.priority b.priority with h | h | h
  · exact .inl (.inl h)
  · rcases Nat.lt_trichotomy a.id b.id with g | g | g
    · exact .inl (.inr ⟨h, g⟩)
    · exact .inr (.inl ⟨h, g⟩)
    · exact .inr (.inr (.inr ⟨h.symm, g⟩))
  · exact .inr (.inr (.inl h))

theorem Precedes.not_samePlace {a b : Descriptor} (h : a.Precedes b) : ¬ a.SamePlace b := by
  rintro ⟨hp, hi⟩
  rcases h with h | ⟨_, h⟩
  · exact Priority.lt_irrefl _ (hp ▸ h)
  · omega

/-! ### Comparing and showing -/

/-- Whether two descriptors describe the same production: id, priority and factory do not count. -/
def same (a b : Descriptor) : Bool :=
  a.origin = b.origin && a.element = b.element && a.patterns = b.patterns
    && a.payload.same b.payload

/-- The inspection text of a priority. -/
def inspectPriority (p : Priority) : String :=
  record "Priority"
    [("category", toString p.category.toNat), ("rank", toString p.rank.toNat)]

/-- The inspection text of an origin. -/
def inspectOrigin : Origin → String
  | .unknown => "Unknown"
  | .addon name => tagged "Addon" (quoted name)

/-- The inspection text. -/
def inspect (d : Descriptor) : String :=
  openRecord "SyntaxInfo"
    [("id", tagged "SyntaxId" (toString d.id)), ("origin", inspectOrigin d.origin),
      ("element", d.element.name), ("patterns", listed (d.patterns.map quoted)),
      ("priority", inspectPriority d.priority), ("payload", d.payload.inspect)]

end Descriptor

end Phrasebook
