import Phrasebook.Toml.Scalar
/-!
# Phrasebook.Toml.Literal

Quoted texts of TOML, on one line or several, with escapes or without. Readers take the characters
behind the opening quotes and give the text and what follows the closing quotes.
-/

namespace Phrasebook.Toml

/-- Whether a text or a comment may hold the character as it is: tabs, and all but the controls. -/
def isPlain (c : Char) : Bool := c == '\t' || (0x20 ≤ c.toNat && c.toNat != 0x7F)

/-- The character that an escape with a single letter stands for. -/
def simpleEscape? : Char → Option Char
  | 'b' => some '\x08'
  | 't' => some '\t'
  | 'n' => some '\n'
  | 'f' => some '\x0c'
  | 'r' => some '\r'
  | 'e' => some '\x1b'
  | '"' => some '"'
  | '\\' => some '\\'
  | _ => none

/-- How many digits the code takes that an escape announces. -/
def codeLength? : Char → Option Nat
  | 'x' => some 2
  | 'u' => some 4
  | 'U' => some 8
  | _ => none

/-- The character of a code, unless it is a surrogate or too large. -/
def ofCode? (n : Nat) : Option Char :=
  if n < 0xD800 ∨ 0xDFFF < n ∧ n < 0x110000 then some (Char.ofNat n) else none

/-- Puts a character in front of a text that was read. -/
def cons (c : Char) (r : Option (List Char × List Char)) : Option (List Char × List Char) :=
  r.map fun (text, rest) => (c :: text, rest)

/-- What a text between single quotes reads as: nothing is escaped. -/
def literal? : List Char → Option (List Char × List Char)
  | [] => none
  | '\'' :: rest => some ([], rest)
  | c :: rest => if isPlain c then cons c (literal? rest) else none

/-- Where the reader of an escaping text stands. -/
inductive Place
  /-- In the text. -/
  | text
  /-- In the digits of a code: how many are to come, and what the others amount to. -/
  | code (left value : Nat)

/-- What a text between double quotes reads as. -/
def basic? : Place → List Char → Option (List Char × List Char)
  | _, [] => none
  | .code left value, c :: rest =>
    if !isHexDigit c then none
    else
      let value := value * 16 + digitValue c
      match left with
      | n + 2 => basic? (.code (n + 1) value) rest
      | _ => (ofCode? value).bind fun ch => cons ch (basic? .text rest)
  | .text, '"' :: rest => some ([], rest)
  | .text, '\\' :: c :: rest =>
    match codeLength? c with
    | some n => basic? (.code n 0) rest
    | none => (simpleEscape? c).bind fun ch => cons ch (basic? .text rest)
  | .text, c :: rest => if isPlain c then cons c (basic? .text rest) else none

/-! ### Texts over several lines

A line break right behind the opening quotes is no part of the text. The others stay as they are
written, with a carriage return or without. -/

/-- Whether the character is a space or a tab. -/
def isSpace (c : Char) : Bool := c == ' ' || c == '\t'

/-- The rest of a text behind a line break that it begins with. -/
def afterBreak? : List Char → Option (List Char)
  | '\n' :: rest => some rest
  | '\r' :: '\n' :: rest => some rest
  | _ => none

/-- The rest of a text without a line break in front. -/
def dropBreak (cs : List Char) : List Char := (afterBreak? cs).getD cs

/-- The quotes that belong to a text and what follows the closing ones, if `cs` begins with three
quotes or more. Two quotes at most may stand right before the closing ones. -/
def closing? (quote : Char) (cs : List Char) : Option (List Char × List Char) :=
  let count := min 5 (cs.takeWhile (· == quote)).length
  if count < 3 then none else some (List.replicate (count - 3) quote, cs.drop count)

/-- What a text between triple single quotes reads as. -/
def multilineLiteral? : List Char → Option (List Char × List Char)
  | [] => none
  | '\r' :: '\n' :: rest => cons '\r' (cons '\n' (multilineLiteral? rest))
  | c :: rest =>
    match closing? '\'' (c :: rest) with
    | some r => some r
    | none => if isPlain c || c == '\n' then cons c (multilineLiteral? rest) else none

/-- The rest of a text behind the blanks and line breaks that it begins with. -/
def skipBlankLines : List Char → List Char
  | [] => []
  | '\r' :: '\n' :: rest => skipBlankLines rest
  | c :: rest => if isSpace c || c == '\n' then skipBlankLines rest else c :: rest

/-- What a backslash at the end of a line leaves: it swallows blanks and line breaks, of which there
has to be one, with only blanks before it. -/
def afterContinuation? (cs : List Char) : Option (List Char) :=
  (afterBreak? (cs.dropWhile isSpace)).map skipBlankLines

/-- What a text between triple double quotes reads as. Every step consumes a character at least, so
the length of the text is fuel enough. -/
def multilineBasic? : Nat → List Char → Option (List Char × List Char)
  | 0, _ => none
  | _, [] => none
  | fuel + 1, '\r' :: '\n' :: rest => cons '\r' (cons '\n' (multilineBasic? fuel rest))
  | fuel + 1, '\\' :: c :: rest =>
    match afterContinuation? (c :: rest) with
    | some rest => multilineBasic? fuel rest
    | none =>
      match codeLength? c with
      | some n =>
        let digits := rest.take n
        if digits.length = n ∧ digits.all isHexDigit then
          (ofCode? (ofDigits 16 digits)).bind fun ch => cons ch (multilineBasic? fuel (rest.drop n))
        else none
      | none => (simpleEscape? c).bind fun ch => cons ch (multilineBasic? fuel rest)
  | fuel + 1, c :: rest =>
    match closing? '"' (c :: rest) with
    | some r => some r
    | none => if isPlain c || c == '\n' then cons c (multilineBasic? fuel rest) else none

/-- A quoted text and what follows it. -/
def quotedText? (cs : List Char) : Option (List Char × List Char) :=
  match cs with
  | '"' :: '"' :: '"' :: rest => multilineBasic? (rest.length + 1) (dropBreak rest)
  | '\'' :: '\'' :: '\'' :: rest => multilineLiteral? (dropBreak rest)
  | '"' :: rest => basic? .text rest
  | '\'' :: rest => literal? rest
  | _ => none

end Phrasebook.Toml
