/-!
# Phrasebook.Text.Record

The notation of inspection texts, which show a value with all its parts: records with named fields
between braces, lists between brackets, and a tag in front of what it wraps.
-/

namespace Phrasebook.Text

/-- Items between brackets. -/
def listed (items : List String) : String := "[" ++ ", ".intercalate items ++ "]"

/-- A tag and the one part it wraps. -/
def tagged (tag part : String) : String := tag ++ "(" ++ part ++ ")"

/-- A part that may be absent. -/
def optional (part : Option String) : String :=
  match part with
  | none => "None"
  | some p => tagged "Some" p

/-- The fields of a record, each after its name. -/
def fieldTexts (fields : List (String × String)) : List String :=
  fields.map fun (name, value) => name ++ ": " ++ value

/-- A record with all its fields. -/
def record (type : String) (fields : List (String × String)) : String :=
  type ++ " \x7b " ++ ", ".intercalate (fieldTexts fields) ++ " \x7d"

/-- A record that shows some of its fields and says that there are more. -/
def openRecord (type : String) (fields : List (String × String)) : String :=
  type ++ " \x7b " ++ ", ".intercalate (fieldTexts fields ++ [".."]) ++ " \x7d"

/-- The two words for truth. -/
def truth (b : Bool) : String := if b then "true" else "false"

end Phrasebook.Text
