/-!
# Phrasebook.Path

Paths in a file system. The library only keeps and compares them. A path is a sequence of
components: repeated separators and a separator at the end make no difference, and neither does a
`.`, except as the first component of a relative path.
-/

namespace Phrasebook

/-- A path, as it was written. -/
structure Path where
  text : String

namespace Path

/-- One step of a path. -/
inductive Component
  /-- The root of the file system. -/
  | root
  /-- The current directory, at the start of a relative path. -/
  | here
  /-- The parent directory. -/
  | up
  | name (text : List Char)
deriving DecidableEq

/-- The pieces between the separators; the first argument is the piece so far, in reverse. -/
def pieces (piece : List Char) : List Char → List (List Char)
  | [] => [piece.reverse]
  | '/' :: rest => piece.reverse :: pieces [] rest
  | c :: rest => pieces (c :: piece) rest

/-- The component that a piece stands for, if it is not idle. -/
def component? (piece : List Char) : Option Component :=
  if piece = [] ∨ piece = ['.'] then none
  else if piece = ['.', '.'] then some .up
  else some (.name piece)

/-- What a path starts with before any name: the root, the current directory, or nothing. -/
def opening : List Char → List Component
  | '/' :: _ => [.root]
  | ['.'] => [.here]
  | '.' :: '/' :: _ => [.here]
  | _ => []

/-- The components of a path. -/
def components (p : Path) : List Component :=
  opening p.text.toList ++ (pieces [] p.text.toList).filterMap component?

/-- Paths are equal if they have the same components. -/
instance : BEq Path := ⟨fun a b => a.components == b.components⟩

end Path

end Phrasebook
