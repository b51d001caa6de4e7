import Phrasebook.Text.Blank
import Phrasebook.Text.Lowercase
/-!
# Phrasebook.Event.Name

What an event is called, and the id that documentation links to it by. A name that begins with `*`
is shown as it stands behind the star; any other is shown as `On <name>`. The star has no part in
the id either way.
-/

namespace Phrasebook.Event

/-- The name without the star that keeps it verbatim, if it has one. -/
def withoutStar : List Char → List Char
  | '*' :: name => name
  | name => name

/-- The name to show. -/
def displayName (name : String) : String :=
  match name.toList with
  | '*' :: verbatim => String.ofList verbatim
  | _ => "On " ++ name

/-- Characters that have no place in an id. -/
def strippedFromIds : List Char := ['#', '\'', '"', '<', '>', '/', '&', '*']

/-- The rest of an id: stripped characters vanish, and whitespace becomes one `_` unless
`inSpace` says that it goes on from whitespace before. -/
def idFrom (inSpace : Bool) : List Char → List Char
  | [] => []
  | c :: rest =>
    if strippedFromIds.contains c then idFrom inSpace rest
    else if Text.isBlank c then if inSpace then idFrom true rest else '_' :: idFrom true rest
    else c :: idFrom false rest

/-- The id of the event of that name: in lower case, free of punctuation, with underscores for
whitespace. -/
def idOf (name : String) : String :=
  String.ofList (idFrom false (Text.lowercase (withoutStar name.toList)))

end Phrasebook.Event
