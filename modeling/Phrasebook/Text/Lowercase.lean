import Phrasebook.Text.Cased
import Phrasebook.Text.CaseIgnorable
import Phrasebook.Text.LowercaseTable
/-!
# Phrasebook.Text.Lowercase

Lower-casing of whole texts by the rules of Unicode that hold in every language. Most characters
have their counterpart in a table. Two need more:

* `İ` becomes an `i` followed by a combining dot;
* `Σ` becomes `ς` at the end of a word and `σ` elsewhere. It ends a word when a letter with a case
  stands before it and none after it, characters that are ignored for this question left aside.
-/

namespace Phrasebook.Text

/-- The counterpart of the character in this run. -/
def LowerRun.lower? (run : LowerRun) (c : Char) : Option Char :=
  if run.first ≤ c.toNat ∧ c.toNat ≤ run.last ∧ (c.toNat - run.first) % run.step = 0 then
    some (Char.ofNat (run.image + (c.toNat - run.first)))
  else none

/-- The lower-case counterpart of a character that has one, and else the character itself. -/
def lowerChar (c : Char) : Char := (lowerRuns.findSome? (·.lower? c)).getD c

/-- Whether the first character that is not ignored has a case. -/
def meetsCased (cs : List Char) : Bool :=
  match cs.dropWhile caseIgnorable.contains with
  | [] => false
  | c :: _ => cased.contains c

/-- Lower-cases `rest`, which stands in the text after the characters `before`, nearest first. -/
def lowerAfter (before : List Char) : List Char → List Char
  | [] => []
  | c :: rest =>
    let lowered :=
      if c = 'İ' then ['i', '\u0307']
      else if c = 'Σ' then if meetsCased before && !meetsCased rest then ['ς'] else ['σ']
      else [lowerChar c]
    lowered ++ lowerAfter (c :: before) rest

/-- The text in lower case. -/
def lowercase (text : List Char) : List Char := lowerAfter [] text

end Phrasebook.Text
