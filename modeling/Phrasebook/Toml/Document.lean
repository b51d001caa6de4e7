import Phrasebook.Toml.Reader
/-!
# Phrasebook.Toml.Document

Documents: from a text to its lines, and from the lines to one table.
-/

namespace Phrasebook.Toml

/-- A document in the making: all lines so far, and the header whose table takes the next pairs. -/
structure Draft where
  root : Table
  header : List String

namespace Draft

/-- Before the first line. -/
def empty : Draft := ⟨.empty .explicit, []⟩

/-- Opens the table at the end of a path. -/
def openAt (d : Draft) (path : List String) (change : String → Table → Option Table) :
    Option Draft := do
  let key ← path.getLast?
  let root ← d.root.within false (change key) path.dropLast
  some ⟨root, path⟩

/-- Takes one more line. -/
def add (d : Draft) : Line → Option Draft
  | .header path => d.openAt path Table.openTable
  | .itemHeader path => d.openAt path Table.openItem
  | .pair path v =>
    (d.root.within false (Table.pair path v) d.header).map fun root => { d with root }

end Draft

/-- The table of a document. A mark of byte order in front of the text is no part of it. -/
def read? (text : String) : Option Table := do
  let cs := match text.toList with
    | '\ufeff' :: rest => rest
    | cs => cs
  let start ← skipLines false cs
  let lines ← lines? (start.length + 1) start
  let d ← lines.foldlM Draft.add Draft.empty
  some d.root

end Phrasebook.Toml
