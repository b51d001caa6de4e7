import Phrasebook.Text.CodeSet
/-!
# Phrasebook.Text.Blank

The characters that count as whitespace.
-/

namespace Phrasebook.Text

/-- Characters with the Unicode property `White_Space`. -/
def whiteSpace : CodeSet :=
  [(0x9, 0xd), (0x20, 0x20), (0x85, 0x85), (0xa0, 0xa0), (0x1680, 0x1680), (0x2000, 0x200a),
    (0x2028, 0x2029), (0x202f, 0x202f), (0x205f, 0x205f), (0x3000, 0x3000)]

/-- Whether the character is whitespace. -/
def isBlank (c : Char) : Bool := whiteSpace.contains c

end Phrasebook.Text
