import Phrasebook.Event.Priority
/-!
# Phrasebook.Event.Pattern

The stored form of an event's patterns.

A type placeholder is a span between two percent signs. In an event every placeholder is
*nullable*, which is written with a `-` right after the sign that opens it. A sign after a backslash
is text; it opens and closes nothing.
-/

namespace Phrasebook.Event

/-- Whether a placeholder that goes on with these characters still has to be marked: at least two
follow, and neither of the first two is a mark already. -/
def lacksMark : List Char → Bool
  | a :: b :: _ => a != '-' && b != '-'
  | _ => false

/-- The rest of a pattern with its placeholders marked. `inType` says whether the scan stands
inside a placeholder, so that the next sign closes it. -/
def markFrom (inType : Bool) : List Char → List Char
  | [] => []
  | '%' :: rest =>
    if inType then '%' :: markFrom false rest
    else if lacksMark rest then '%' :: '-' :: markFrom true rest
    else '%' :: markFrom true rest
  | '\\' :: c :: rest => '\\' :: c :: markFrom inType rest
  | c :: rest => c :: markFrom inType rest

/-- The pattern with every placeholder marked as nullable. -/
def markNullable (pattern : String) : String := String.ofList (markFrom false pattern.toList)

/-- The choice of listener priorities, as patterns spell it. -/
def priorityChoice : String := "|".intercalate (EventPriority.all.map EventPriority.name)

/-- The stored form of a raw pattern: marked, with the optional `on` before it and the optional
priority clause behind. -/
def storedPattern (pattern : String) : String :=
  "[on] " ++ markNullable pattern ++ " [with priority (" ++ priorityChoice ++ ")]"

end Phrasebook.Event
