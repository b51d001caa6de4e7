import Phrasebook.Priority
/-!
# Phrasebook.Supply

Where fresh numbers come from: the ids of descriptors, and the default ranks of those that ask for
no priority. Default ranks grow with every draw, which keeps such descriptors in the order in which
they were built.
-/

namespace Phrasebook

/-- The numbers that were not drawn yet. -/
structure Supply where
  nextId : Nat
  nextRank : UInt32
deriving DecidableEq

namespace Supply

/-- Nothing drawn. -/
def fresh : Supply := ⟨1, 0⟩

/-- Draws an id. Ids count on without an end. Their counter is a word of 64 bits and would start
anew after `2 ^ 64` draws, but no run makes so many builds. -/
def drawId (s : Supply) : Nat × Supply := (s.nextId, { s with nextId := s.nextId + 1 })

/-- Draws the next default priority. Ranks do start anew, after `2 ^ 32` draws. -/
def drawPriority (s : Supply) : Priority × Supply :=
  (.ofRank s.nextRank, { s with nextRank := s.nextRank + 1 })

end Supply

end Phrasebook
