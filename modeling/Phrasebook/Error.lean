/-!
# Phrasebook.Error

Why a descriptor could not be built or a registration was refused. Each cause is fatal for the
operation that met it: callers give up the module they are loading and do not try again.
-/

namespace Phrasebook

/-- What goes wrong while building descriptors and registering them. -/
inductive RegistryError
  /-- A field that this kind of descriptor needs was never set. -/
  | missingField (kind typeName field : String)
  /-- A descriptor was built without any pattern. -/
  | emptyPatterns (typeName : String)
  /-- The return type of an expression is no nominal value type. -/
  | invalidReturnType (typeName : String)
  /-- A descriptor was offered to a key that does not take its kind. -/
  | kindMismatch (key expected found : String)
  /-- A write came after closing, to one key or, with `none`, to the registry as a whole. -/
  | registrationClosed (key : Option String)
  /-- The descriptor of that id is listed under the key already. -/
  | duplicateSyntax (key : String) (id : Nat)
  /-- Something derived was read before its owner had set it up. -/
  | uninitialized (what : String)
deriving DecidableEq

/-- The form in which descriptor ids appear in messages and logs. -/
def idText (id : Nat) : String := "#" ++ toString id

/-- The message of an error. -/
def RegistryError.message : RegistryError → String
  | missingField kind typeName field =>
    kind ++ " descriptor for " ++ typeName ++ " is missing required field `" ++ field ++ "`"
  | emptyPatterns typeName => "descriptor for " ++ typeName ++ " has no patterns"
  | invalidReturnType typeName => "return type must be a plain value type, got " ++ typeName
  | kindMismatch key expected found =>
    "key `" ++ key ++ "` expects " ++ expected ++ " descriptors, got " ++ found
  | registrationClosed key => "registration is closed (key: " ++ key.getD "<registry>" ++ ")"
  | duplicateSyntax key id => "duplicate syntax " ++ idText id ++ " under key `" ++ key ++ "`"
  | uninitialized what => what ++ " accessed before initialization"

end Phrasebook
