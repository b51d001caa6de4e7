/-!
# Phrasebook.Text.CodeSet

Sets of characters given by ranges of code points, the form in which Unicode lists its properties.
-/

namespace Phrasebook.Text

/-- A set of characters: ranges of code points, both ends included. -/
abbrev CodeSet := List (Nat × Nat)

/-- Whether the character lies in one of the ranges. -/
def CodeSet.contains (set : CodeSet) (c : Char) : Bool :=
  set.any fun (first, last) => first ≤ c.toNat && c.toNat ≤ last

end Phrasebook.Text
