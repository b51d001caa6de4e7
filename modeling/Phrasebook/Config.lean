import Phrasebook.Addon
import Phrasebook.Text.Quoted
import Phrasebook.Text.Record
import Phrasebook.Toml.Document
/-!
# Phrasebook.Config

The settings of an engine, read from a TOML document. Every setting has a default, and a document
may not hold anything that is no setting. Fields are looked at in the order of their names, and the
first one with a fault decides what is reported.
-/

namespace Phrasebook

/-- The settings of an engine. -/
structure Config where
  /-- The name under which the engine registers itself. -/
  coreName : String
  /-- Where the engine's own addon keeps its data files. -/
  dataDirectory : Option Path
  /-- Where the engine's own addon keeps its language files. -/
  languageDirectory : Option Path
  /-- Whether submitted addons are loaded too. -/
  collectSubmitted : Bool
deriving BEq

namespace Config

/-- The settings of an empty document. -/
def default : Config := ⟨"Core", none, some ⟨"lang"⟩, true⟩

/-- The engine's own addon. -/
def core (c : Config) : Addon := ⟨c.coreName, c.dataDirectory, c.languageDirectory⟩

/-- What is wrong with a document. -/
inductive Fault
  /-- It is no TOML. -/
  | malformed
  /-- A number is asked for that is ill-formed or out of every range. -/
  | noNumber
  /-- There is no such setting. -/
  | unknownField (name : String)
  /-- A setting has a value of another type. -/
  | invalidType (found expected : String)
deriving DecidableEq

/-! ### Describing values -/

/-- A word and the value that it introduces. -/
def shown (what value : String) : String := what ++ " `" ++ value ++ "`"

/-- How an integer is described, with the width of those that take more than 64 bits. -/
def describeInteger (n : Int) : Except Fault String :=
  let text := shown "integer" (toString n)
  if -Int.pow 2 63 ≤ n ∧ n < Int.pow 2 64 then .ok text
  else if -Int.pow 2 127 ≤ n ∧ n < Int.pow 2 127 then .ok (text ++ " as i128")
  else if 0 ≤ n ∧ n < Int.pow 2 128 then .ok (text ++ " as u128")
  else .error .noNumber

/-- How a floating-point number is described: by the shortest decimal that reads back. -/
def describeReal : Toml.Real → Except Fault String
  | .nan => .ok (shown "floating point" "NaN")
  | .infinite negative => .ok (shown "floating point" (if negative then "-inf" else "inf"))
  | .finite negative x =>
    match x.nearest with
    | none => .error .noNumber
    | some b =>
      .ok (shown "floating point" ((if negative then "-" else "") ++ b.shortest.positional))

/-- How a value is described that is not of the type it should have. -/
def describe : Toml.Value → Except Fault String
  | .text s => .ok ("string " ++ Text.quoted s)
  | .integer n => describeInteger n
  | .illFormed => .error .noNumber
  | .real x => describeReal x
  | .boolean b => .ok (shown "boolean" (Text.truth b))
  | .datetime _ | .table _ _ => .ok "map"
  | .array _ | .tables _ _ => .ok "sequence"

/-- The fault of a value that is not of the expected type. -/
def mismatch (v : Toml.Value) (expected : String) : Fault :=
  match describe v with
  | .ok found => .invalidType found expected
  | .error fault => fault

/-! ### Reading settings -/

/-- A text. -/
def asText (expected : String) : Toml.Value → Except Fault String
  | .text s => .ok s
  | v => .error (mismatch v expected)

/-- A path. -/
def asPath (v : Toml.Value) : Except Fault Path := (asText "path string" v).map Path.mk

/-- A truth value. -/
def asTruth : Toml.Value → Except Fault Bool
  | .boolean b => .ok b
  | v => .error (mismatch v "a boolean")

/-- Takes the value of one field. -/
def setField (c : Config) (field : String × Toml.Value) : Except Fault Config :=
  match field with
  | ("core_addon", v) => (asText "a string" v).map fun s => { c with coreName := s }
  | ("data_file_directory", v) => (asPath v).map fun p => { c with dataDirectory := some p }
  | ("language_file_directory", v) => (asPath v).map fun p => { c with languageDirectory := some p }
  | ("collect_submitted_addons", v) => (asTruth v).map fun b => { c with collectSubmitted := b }
  | (name, _) => .error (.unknownField name)

/-- The settings of a document. -/
def ofTable (t : Toml.Table) : Except Fault Config :=
  (t.entries.mergeSort fun a b => a.1 ≤ b.1).foldlM setField default

/-- The settings of the document of that text. -/
def ofToml (text : String) : Except Fault Config :=
  match Toml.read? text with
  | none => .error .malformed
  | some t => ofTable t

/-- The names of the settings, as messages list them. -/
def fieldNames : List String :=
  ["core_addon", "data_file_directory", "language_file_directory", "collect_submitted_addons"]

/-- The message of a fault that concerns settings. What is wrong with the TOML itself is for its
reader to say. -/
def Fault.message? : Fault → Option String
  | malformed | noNumber => none
  | unknownField name =>
    some (shown "unknown field" name ++ ", expected one of "
      ++ ", ".intercalate (fieldNames.map fun f => "`" ++ f ++ "`"))
  | invalidType found expected => some ("invalid type: " ++ found ++ ", expected " ++ expected)

/-! ### Files -/

/-- What there is at a path. -/
inductive Source
  | missing
  | directory
  | file (bytes : ByteArray)

/-- Why no settings came from a file. -/
inductive LoadError
  /-- The file could not be read. -/
  | unreadable (reason : String)
  | fault (f : Fault)
deriving DecidableEq

/-- The text at a path. -/
def Source.text : Source → Except LoadError String
  | missing => .error (.unreadable "No such file or directory (os error 2)")
  | directory => .error (.unreadable "Is a directory (os error 21)")
  | file bytes =>
    match String.fromUTF8? bytes with
    | some s => .ok s
    | none => .error (.unreadable "stream did not contain valid UTF-8")

/-- The settings of the file at a path. -/
def load (source : Source) : Except LoadError Config :=
  source.text.bind fun s => (ofToml s).mapError .fault

/-- The message for a file that could not be read. -/
def unreadableMessage (path reason : String) : String :=
  "I/O error reading " ++ path ++ ": " ++ reason

end Config

end Phrasebook
