import Phrasebook.Decimal.Shortest
/-!
# Phrasebook.Toml.Value

The values of TOML documents, and how documents and inline tables grow by keys.

How a table came about decides who may still add to it: a table of a header takes the pairs that
follow its header, one that only lies on the way to another table may get a header of its own later,
one that lies on the way of a dotted key takes more dotted keys but no header any more, and an
inline table is complete where it ends.
-/

namespace Phrasebook.Toml

/-- A floating-point number. -/
inductive Real
  /-- A decimal, as it was written. -/
  | finite (negative : Bool) (x : Decimal)
  | infinite (negative : Bool)
  | nan
deriving DecidableEq

/-- How a table came about. -/
inductive Form
  /-- Between braces. -/
  | inline
  /-- On the way to the table of a header, and not on the way of a dotted key so far. -/
  | implicit
  /-- By a header of its own, or as the document itself. -/
  | explicit
  /-- On the way of a dotted key. -/
  | dotted
deriving DecidableEq

/-- A value. -/
inductive Value
  | text (s : String)
  | integer (n : Int)
  /-- What passes for an integer but stands for no number. A document may hold it as long as nobody
  asks which number it is. -/
  | illFormed
  | real (x : Real)
  | boolean (b : Bool)
  /-- A date, a time or both, as written. -/
  | datetime (s : String)
  | array (items : List Value)
  | table (form : Form) (entries : List (String × Value))
  /-- The tables of an array header; the last one, which is kept apart, is the one that grows. -/
  | tables (earlier : List Value) (last : List (String × Value))

/-- The entries of a table, in the order in which their keys first appeared. -/
abbrev Entries := List (String × Value)

/-- A table: how it came about, and its entries. -/
structure Table where
  form : Form
  entries : Entries

namespace Entries

/-- The value of a key. -/
def find? (es : Entries) (key : String) : Option Value := es.lookup key

/-- Sets the value of a key. -/
def put (key : String) (v : Value) : Entries → Entries
  | [] => [(key, v)]
  | (k, u) :: rest => if k = key then (k, v) :: rest else (k, u) :: put key v rest

end Entries

namespace Table

/-- A document before its first line, or what is between two braces. -/
def empty (form : Form) : Table := ⟨form, []⟩

/-- Changes the table at the end of a path and makes the tables on the way that are missing. Fails
where the way is barred: by a value that is no table, by an inline table, and for the path of a
dotted key by the table of a header. The other tables on that path become tables of dotted keys. -/
def within (dotted : Bool) (change : Table → Option Table) : List String → Table → Option Table
  | [], t => change t
  | key :: path, t =>
    let put (v : Value) : Table := { t with entries := t.entries.put key v }
    match t.entries.find? key with
    | none =>
      (within dotted change path (empty (if dotted then .dotted else .implicit))).map
        fun u => put (.table u.form u.entries)
    | some (.table form entries) =>
      if form = .inline ∨ dotted = true ∧ form = .explicit then none
      else
        (within dotted change path ⟨if dotted then .dotted else form, entries⟩).map
          fun u => put (.table u.form u.entries)
    | some (.tables earlier last) =>
      (within dotted change path ⟨.explicit, last⟩).map fun u => put (.tables earlier u.entries)
    | some _ => none

/-- Adds a pair to a table that has no such key yet. Below a dotted key only tables of dotted keys
take it. -/
def addPair (dotted : Bool) (key : String) (v : Value) (t : Table) : Option Table :=
  if (t.entries.find? key).isSome ∨ dotted = true ∧ t.form ≠ .dotted then none
  else some { t with entries := t.entries.put key v }

/-- Adds a pair with a key of any length. -/
def pair (path : List String) (v : Value) (t : Table) : Option Table :=
  match path.getLast? with
  | none => none
  | some key =>
    within true (addPair (1 < path.length) key v) path.dropLast t

/-- Opens the table of a header. -/
def openTable (key : String) (t : Table) : Option Table :=
  match t.entries.find? key with
  | none => some { t with entries := t.entries.put key (.table .explicit []) }
  | some (.table .implicit entries) =>
    some { t with entries := t.entries.put key (.table .explicit entries) }
  | some _ => none

/-- Opens one more table of an array header. -/
def openItem (key : String) (t : Table) : Option Table :=
  match t.entries.find? key with
  | none => some { t with entries := t.entries.put key (.tables [] []) }
  | some (.tables earlier last) =>
    some { t with entries := t.entries.put key (.tables (earlier ++ [.table .explicit last]) []) }
  | some _ => none

end Table

end Phrasebook.Toml
