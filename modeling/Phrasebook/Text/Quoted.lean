import Phrasebook.Text.Unprintable
/-!
# Phrasebook.Text.Quoted

Quoted texts, in which everything that could mislead a reader is escaped: the quote and the
backslash, the usual controls by their letters, and what cannot be printed by its code.
-/

namespace Phrasebook.Text

/-- The digits of a code in base 16. -/
def codeDigits (c : Char) : List Char := Nat.toDigits 16 c.toNat

/-- How a character is written between quotes. -/
def escaped (c : Char) : List Char :=
  if c = '"' ∨ c = '\\' then ['\\', c]
  else if c = '\n' then ['\\', 'n']
  else if c = '\r' then ['\\', 'r']
  else if c = '\t' then ['\\', 't']
  else if c = '\x00' then ['\\', '0']
  else if unprintable.contains c then ['\\', 'u', '\x7b'] ++ codeDigits c ++ ['\x7d']
  else [c]

/-- The text between double quotes. -/
def quoted (text : String) : String :=
  String.ofList ('"' :: text.toList.flatMap escaped ++ ['"'])

end Phrasebook.Text
