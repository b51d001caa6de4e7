/-!
# Phrasebook.Event.Priority

The priorities with which a script may listen to an event of the host.
-/

namespace Phrasebook

/-- Host listener priorities, lowest first. -/
inductive EventPriority
  | lowest
  | low
  | normal
  | high
  | highest
  | monitor
deriving DecidableEq

namespace EventPriority

/-- All of them, lowest first. -/
def all : List EventPriority := [lowest, low, normal, high, highest, monitor]

/-- The name as written in scripts. -/
def name : EventPriority → String
  | lowest => "lowest"
  | low => "low"
  | normal => "normal"
  | high => "high"
  | highest => "highest"
  | monitor => "monitor"

/-- The place in the order. -/
def index : EventPriority → Nat
  | lowest => 0
  | low => 1
  | normal => 2
  | high => 3
  | highest => 4
  | monitor => 5

/-- The priority of that name; letters of the Latin alphabet may be of either case. -/
def ofName? (text : String) : Option EventPriority :=
  all.find? fun p => p.name.toList == text.toList.map Char.toLower

/-- The priorities that come before this one. -/
def below (p : EventPriority) : List EventPriority := all.filter fun q => q.index < p.index

end EventPriority

end Phrasebook
