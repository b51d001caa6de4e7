import Phrasebook.Entry
import Phrasebook.Event.Docs
import Phrasebook.Priority
/-!
# Phrasebook.Payload

The part of a descriptor that depends on what kind of production it describes.
-/

namespace Phrasebook

open Text

/-- A broad class of expressions. The class only biases the order of matching: expressions of an
earlier class are tried before all of a later one. -/
inductive ExpressionType
  /-- Like a literal, without sub-expressions. -/
  | simple
  /-- Available inside a particular event only. -/
  | event
  /-- Combines several sub-expressions. -/
  | combined
  /-- A property of something. -/
  | property
  /-- So broad that it would match almost anything. -/
  | patternMatchesEverything
deriving DecidableEq

namespace ExpressionType

/-- All classes, in the order in which they are tried. -/
def all : List ExpressionType := [simple, event, combined, property, patternMatchesEverything]

/-- The place in that order, which becomes the category of the expression's priority. -/
def ordinal : ExpressionType → UInt8
  | simple => 0
  | event => 1
  | combined => 2
  | property => 3
  | patternMatchesEverything => 4

/-- The ordinal of a class says how many classes are tried before it. -/
theorem toNat_ordinal (t : ExpressionType) : t.ordinal.toNat = all.idxOf t := by
  cases t <;> decide

/-- Of two classes, the one with the smaller ordinal is tried before the other. -/
theorem ordinal_lt_iff {s t : ExpressionType} : s.ordinal < t.ordinal ↔ [s, t].Sublist all := by
  cases s <;> cases t <;> decide

/-- The inspection text. -/
def inspect : ExpressionType → String
  | simple => "Simple"
  | event => "Event"
  | combined => "Combined"
  | property => "Property"
  | patternMatchesEverything => "PatternMatchesEverything"

end ExpressionType

/-- The expression part of a descriptor. -/
structure ExpressionInfo where
  /-- The type of the values the expression yields. -/
  returnType : HostType
  type : ExpressionType
deriving DecidableEq

/-- The structure part of a descriptor. -/
structure StructureInfo where
  validator : Option EntryValidator

/-- What kind of production a descriptor describes, with the data of that kind. -/
inductive Payload
  /-- Statements, effects, conditions, sections. -/
  | plain
  | expression (info : ExpressionInfo)
  | struct (info : StructureInfo)
  /-- Structures bound to events of the host. They never have a validator. -/
  | event (info : EventInfo)

namespace Payload

/-- The kind's name in messages. -/
def kindName : Payload → String
  | plain => "syntax"
  | expression _ => "expression"
  | struct _ => "structure"
  | event _ => "event"

/-- The priority of a descriptor with this payload that asked for `p`: expressions are moved into
the category of their class, all others keep what they asked for. -/
def settle (payload : Payload) (p : Priority) : Priority :=
  match payload with
  | expression info => p.inCategory info.type.ordinal
  | _ => p

/-- Whether two payloads carry the same data. Validators count by identity. -/
def same : Payload → Payload → Bool
  | plain, plain => true
  | expression a, expression b => a = b
  | struct a, struct b => a.validator.map (·.identity) = b.validator.map (·.identity)
  | event a, event b => a = b
  | _, _ => false

/-- The inspection text. -/
def inspect : Payload → String
  | plain => "Plain"
  | expression info =>
    tagged "Expression" (record "ExpressionInfo"
      [("return_type", info.returnType.name), ("expression_type", info.type.inspect)])
  | struct info =>
    tagged "Structure" (record "StructureInfo"
      [("entry_validator", optional (info.validator.map (·.inspect)))])
  | event info => tagged "Event" info.inspect

end Payload

end Phrasebook
