import Phrasebook.Toml.Value
/-!
# Phrasebook.Toml.Scalar

The values of TOML that are written without quotes: truth values, integers in four bases, floating
point numbers, and dates and times. Each is a run of characters that is either wholly a value or
none.

A run is told apart by what follows the digits in front: a dash or a colon makes it a date or a
time, a point or an exponent anywhere a floating-point number, and all else an integer. Integers are
looked at closely only when somebody asks for their number, so some runs pass that stand for none.
Only a date may have a space in it, before the time of day.
-/

namespace Phrasebook.Toml

/-- The value of a digit in the bases up to 16. -/
def digitValue (c : Char) : Nat :=
  if c.isDigit then c.toNat - '0'.toNat
  else if 'a' ≤ c ∧ c ≤ 'f' then c.toNat - 'a'.toNat + 10
  else c.toNat - 'A'.toNat + 10

/-- Whether the character is a digit in base 16. -/
def isHexDigit (c : Char) : Bool := c.isDigit || ('a' ≤ c && c ≤ 'f') || ('A' ≤ c && c ≤ 'F')

/-- The number that digits stand for. -/
def ofDigits (base : Nat) (ds : List Char) : Nat :=
  ds.foldl (fun n c => n * base + digitValue c) 0

/-- Drops the underscores, each of which has to stand between two digits. `afterDigit` says whether
a digit comes before the text. -/
def unseparated? (isDigit : Char → Bool) (afterDigit : Bool) :
    List Char → Option (List Char)
  | [] => some []
  | '_' :: rest =>
    if afterDigit && rest.head?.any isDigit then unseparated? isDigit false rest else none
  | c :: rest => (unseparated? isDigit (isDigit c) rest).map (c :: ·)

/-- Whether a number has a minus in front, and what follows its sign, which may be missing. -/
def signed : List Char → Bool × List Char
  | '-' :: rest => (true, rest)
  | '+' :: rest => (false, rest)
  | cs => (false, cs)

/-- The number of that size on one side of zero. -/
def withSign (negative : Bool) (n : Nat) : Int := if negative then -n else n

/-- Whether a number begins with a zero that says nothing. -/
def hasIdleZero : List Char → Bool
  | '0' :: c :: _ => c.isDigit || c == '_'
  | _ => false

/-! ### Integers -/

/-- What the digits behind the mark of a base read as. They may be missing, and then they stand for
no number. -/
def marked? (base : Nat) (isDigit : Char → Bool) (cs : List Char) : Option Value := do
  let ds ← unseparated? isDigit false cs
  if ds.isEmpty then some .illFormed
  else if ds.all isDigit then some (.integer (ofDigits base ds)) else none

/-- Whether a text is decimal digits alone or has an underscore right behind them. -/
def isDecimal (cs : List Char) : Bool :=
  match cs.dropWhile Char.isDigit with
  | [] => !cs.isEmpty
  | c :: _ => c == '_'

/-- What an integer in base ten reads as, behind its sign. Once there is an underscore, anything but
a space may follow that keeps to the places of underscores in base sixteen, though only decimal
digits stand for a number. -/
def decimal? (negative : Bool) (cs : List Char) : Option Value :=
  if !isDecimal cs || hasIdleZero cs || cs.contains ' ' then none
  else
    (unseparated? isHexDigit false cs).map fun ds =>
      if ds.all Char.isDigit then .integer (withSign negative (ofDigits 10 ds)) else .illFormed

/-! ### Floating-point numbers -/

/-- Decimal digits, one at least. -/
def digits? (cs : List Char) : Option (List Char) :=
  if !cs.isEmpty && cs.all Char.isDigit then some cs else none

/-- The exponent behind an `e`. -/
def exponent? (cs : List Char) : Option Int :=
  let (negative, cs) := signed cs
  (digits? cs).map fun ds => withSign negative (ofDigits 10 ds)

/-- Whether the character introduces an exponent. -/
def isExponentMark (c : Char) : Bool := c == 'e' || c == 'E'

/-- Whether the character ends the integer digits of a floating-point number. -/
def endsWhole (c : Char) : Bool := c == '.' || isExponentMark c

/-- The part of a number behind its integer digits: a fraction, an exponent or both. Gives the
digits of the fraction and the exponent. -/
def tail? (cs : List Char) : Option (List Char × Int) :=
  match cs with
  | '.' :: rest => do
    let fraction ← digits? (rest.takeWhile fun c => !isExponentMark c)
    match rest.dropWhile fun c => !isExponentMark c with
    | [] => some (fraction, 0)
    | _ :: e => (exponent? e).map fun n => (fraction, n)
  | c :: rest => if isExponentMark c then (exponent? rest).map fun n => ([], n) else none
  | [] => none

/-- A floating-point number in decimal digits, behind its sign. -/
def real? (negative : Bool) (cs : List Char) : Option Real :=
  if hasIdleZero cs then none
  else do
    let cs ← unseparated? Char.isDigit false cs
    let whole ← digits? (cs.takeWhile fun c => !endsWhole c)
    let (fraction, e) ← tail? (cs.dropWhile fun c => !endsWhole c)
    some (.finite negative ⟨ofDigits 10 (whole ++ fraction), e - fraction.length⟩)

/-! ### Dates and times -/

/-- A two-digit number within bounds, and what follows it. -/
def twoDigits? (low high : Nat) : List Char → Option (Nat × List Char)
  | a :: b :: rest =>
    let n := ofDigits 10 [a, b]
    if a.isDigit && b.isDigit && low ≤ n && n ≤ high then some (n, rest) else none
  | _ => none

/-- How many days a month has. -/
def daysIn (year month : Nat) : Nat :=
  if month = 2 then
    if year % 4 = 0 ∧ (year % 100 ≠ 0 ∨ year % 400 = 0) then 29 else 28
  else if month = 4 ∨ month = 6 ∨ month = 9 ∨ month = 11 then 30
  else 31

/-- The rest of a text behind a date. -/
def afterDate? (cs : List Char) : Option (List Char) := do
  let (century, cs) ← twoDigits? 0 99 cs
  let (year, cs) ← twoDigits? 0 99 cs
  match cs with
  | '-' :: cs =>
    let (month, cs) ← twoDigits? 1 12 cs
    match cs with
    | '-' :: cs =>
      let (_, cs) ← twoDigits? 1 (daysIn (100 * century + year) month) cs
      some cs
    | _ => none
  | _ => none

/-- The rest of a text behind a time of day. Seconds may be missing. -/
def afterTime? (cs : List Char) : Option (List Char) := do
  let (_, cs) ← twoDigits? 0 23 cs
  match cs with
  | ':' :: cs =>
    let (_, cs) ← twoDigits? 0 59 cs
    match cs with
    | ':' :: cs =>
      let (_, cs) ← twoDigits? 0 60 cs
      match cs with
      | '.' :: c :: rest => if c.isDigit then some (rest.dropWhile Char.isDigit) else none
      | cs => some cs
    | cs => some cs
  | _ => none

/-- Whether the text is the offset from universal time, or empty. -/
def isOffset (cs : List Char) : Bool :=
  match cs with
  | [] | ['Z'] | ['z'] => true
  | c :: cs =>
    (c == '+' || c == '-') &&
      match twoDigits? 0 23 cs with
      | some (_, ':' :: cs) => (twoDigits? 0 59 cs).any fun (_, rest) => rest.isEmpty
      | _ => false

/-- Whether the text is a date, a time of day, or both with an offset. -/
def isDatetime (cs : List Char) : Bool :=
  match afterDate? cs with
  | some [] => true
  | some (c :: time) =>
    (c == 'T' || c == 't' || c == ' ') && (afterTime? time).any isOffset
  | none => (afterTime? cs).any List.isEmpty

/-! ### Runs of characters -/

/-- The value of a run of characters. -/
def scalar? (run : List Char) : Option Value :=
  match run with
  | '0' :: 'x' :: ds => marked? 16 isHexDigit ds
  | '0' :: 'o' :: ds => marked? 8 (fun c => '0' ≤ c && c ≤ '7') ds
  | '0' :: 'b' :: ds => marked? 2 (fun c => c == '0' || c == '1') ds
  | _ =>
    if run = "true".toList then some (.boolean true)
    else if run = "false".toList then some (.boolean false)
    else
      let (negative, cs) := signed run
      if cs = "inf".toList then some (.real (.infinite negative))
      else if cs = "nan".toList then some (.real .nan)
      else
        match cs.dropWhile Char.isDigit with
        | '-' :: _ | ':' :: _ =>
          if isDatetime run then some (.datetime (String.ofList run)) else none
        | _ => if cs.any endsWhole then (real? negative cs).map .real else decimal? negative cs

end Phrasebook.Toml
