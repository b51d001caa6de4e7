import Phrasebook.Toml.Literal
/-!
# Phrasebook.Toml.Reader

Reading keys, values and lines. A reader takes the characters that are left and gives what it read
and what is left then, or fails. Arrays and inline tables may go over several lines, though not
within a key, may end with a comma, and nest to a bounded depth.

The readers that go round in circles carry fuel. Every round consumes a character at least, so the
number of characters is fuel enough.
-/

namespace Phrasebook.Toml

/-- Drops spaces and tabs. -/
def skipSpaces (cs : List Char) : List Char := cs.dropWhile isSpace

/-- Drops spaces, line breaks and comments. Fails at a character that has no place in them. -/
def skipLines (inComment : Bool) : List Char → Option (List Char)
  | [] => some []
  | '\n' :: rest => skipLines false rest
  | '\r' :: '\n' :: rest => skipLines false rest
  | c :: rest =>
    if inComment then if isPlain c then skipLines true rest else none
    else if isSpace c then skipLines false rest
    else if c = '#' then skipLines true rest
    else some (c :: rest)

/-- Drops the rest of a line, which may hold a comment and nothing else, and the empty lines behind
it. -/
def endLine (cs : List Char) : Option (List Char) :=
  match skipSpaces cs with
  | [] => some []
  | '#' :: rest => skipLines true rest
  | rest => (afterBreak? rest).bind (skipLines false)

/-! ### Keys -/

/-- Whether the character may stand in a key without quotes. -/
def isBare (c : Char) : Bool := c.isAlphanum || c == '_' || c == '-'

/-- One part of a key. -/
def keyPart? (cs : List Char) : Option (String × List Char) :=
  match cs with
  | '"' :: rest => (basic? .text rest).map fun (text, rest) => (String.ofList text, rest)
  | '\'' :: rest => (literal? rest).map fun (text, rest) => (String.ofList text, rest)
  | _ =>
    match cs.takeWhile isBare with
    | [] => none
    | part => some (String.ofList part, cs.dropWhile isBare)

/-- A key of so many parts at most, with dots between them. What is left begins behind the spaces
that follow. -/
def parts? : Nat → List Char → Option (List String × List Char)
  | 0, _ => none
  | limit + 1, cs => do
    let (part, rest) ← keyPart? (skipSpaces cs)
    match skipSpaces rest with
    | '.' :: rest =>
      let (parts, rest) ← parts? limit rest
      some (part :: parts, rest)
    | rest => some ([part], rest)

/-- How many parts a key may have, and how deep arrays and inline tables may nest. -/
def maxDepth : Nat := 80

/-- A key and what follows it. -/
def key? (cs : List Char) : Option (List String × List Char) := parts? maxDepth cs

/-! ### Values -/

/-- Whether the character ends a value without quotes, or separates two words of it. -/
def endsWord (c : Char) : Bool :=
  [' ', '\t', '\n', '\r', ',', '[', ']', '{', '}', '#', '='].contains c

/-- Whether one more word of a value without quotes comes behind the spaces that the text begins
with. -/
def goesOn (cs : List Char) : Bool :=
  (skipSpaces cs).head?.any fun c => !endsWord c && c != '"' && c != '\''

/-- The run of characters of a value without quotes, and what follows it. A run may have several
words, and then it holds the spaces between them too. -/
def scalarRun : List Char → List Char × List Char
  | [] => ([], [])
  | c :: rest =>
    if endsWord c && !(isSpace c && goesOn rest) then ([], c :: rest)
    else
      let (run, rest) := scalarRun rest
      (c :: run, rest)

mutual

/-- A value. `depth` says how many arrays and inline tables may still be opened. -/
def value? (depth : Nat) : Nat → List Char → Option (Value × List Char)
  | 0, _ => none
  | fuel + 1, cs =>
    match cs with
    | '"' :: _ | '\'' :: _ =>
      (quotedText? cs).map fun (text, rest) => (.text (String.ofList text), rest)
    | '[' :: rest =>
      match depth with
      | 0 => none
      | depth + 1 => (items? depth fuel rest).map fun (items, rest) => (.array items, rest)
    | '{' :: rest =>
      match depth with
      | 0 => none
      | depth + 1 =>
        (fields? depth fuel (.empty .explicit) rest).map
          fun (t, rest) => (.table .inline t.entries, rest)
    | _ =>
      let (run, rest) := scalarRun cs
      (scalar? run).map fun v => (v, rest)

/-- The items of an array, up to the closing bracket. -/
def items? (depth : Nat) : Nat → List Char → Option (List Value × List Char)
  | 0, _ => none
  | fuel + 1, cs => do
    match ← skipLines false cs with
    | ']' :: rest => some ([], rest)
    | cs =>
      let (v, rest) ← value? depth fuel cs
      match ← skipLines false rest with
      | ']' :: rest => some ([v], rest)
      | ',' :: rest =>
        let (vs, rest) ← items? depth fuel rest
        some (v :: vs, rest)
      | _ => none

/-- The pairs of an inline table, added to those read before, up to the closing brace. -/
def fields? (depth : Nat) : Nat → Table → List Char → Option (Table × List Char)
  | 0, _, _ => none
  | fuel + 1, t, cs => do
    match ← skipLines false cs with
    | '\x7d' :: rest => some (t, rest)
    | cs =>
      let (path, rest) ← key? cs
      match ← skipLines false rest with
      | '=' :: rest =>
        let (v, rest) ← value? depth fuel (← skipLines false rest)
        let t ← t.pair path v
        match ← skipLines false rest with
        | '\x7d' :: rest => some (t, rest)
        | ',' :: rest => fields? depth fuel t rest
        | _ => none
      | _ => none

end

/-! ### Lines -/

/-- One line of a document. -/
inductive Line
  | header (path : List String)
  | itemHeader (path : List String)
  | pair (path : List String) (v : Value)

/-- A line, without its end. -/
def line? (cs : List Char) : Option (Line × List Char) :=
  match cs with
  | '[' :: '[' :: rest =>
    match key? rest with
    | some (path, ']' :: ']' :: rest) => some (.itemHeader path, rest)
    | _ => none
  | '[' :: rest =>
    match key? rest with
    | some (path, ']' :: rest) => some (.header path, rest)
    | _ => none
  | cs =>
    match key? cs with
    | some (path, '=' :: rest) =>
      (value? maxDepth (rest.length + 1) (skipSpaces rest)).map fun (v, rest) =>
        (.pair path v, rest)
    | _ => none

/-- The lines of a document. -/
def lines? : Nat → List Char → Option (List Line)
  | _, [] => some []
  | 0, _ => none
  | fuel + 1, cs => do
    let (line, rest) ← line? cs
    let rest ← endLine rest
    let lines ← lines? fuel rest
    some (line :: lines)

end Phrasebook.Toml
