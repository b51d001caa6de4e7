/-!
# Phrasebook.HostType

Types of the host. The library knows a host type by its full name only: two types are the same
exactly when their names are. What kind of type it is shows in how the name begins, since a
structural type is written with its type former in front (`[`, `(`, `&`, `*`, `fn(`, `dyn `) while
a nominal type is a path.
-/

namespace Phrasebook

/-- A host type, known by its full name. -/
structure HostType where
  name : String
deriving DecidableEq

namespace HostType

/-- The scalar types that the host language has built in. -/
def primitives : List String :=
  ["bool", "char", "str", "i8", "i16", "i32", "i64", "i128", "isize", "u8", "u16", "u32", "u64",
    "u128", "usize", "f32", "f64", "!"]

/-- What the name of a structural type begins with. -/
def structuralOpenings : List String := ["[", "(", "&", "*", "fn(", "dyn "]

/-- Whether values of the type can be the result of an expression: the type is no primitive and its
name has none of the openings of a structural type. -/
def isValueType (t : HostType) : Bool :=
  !primitives.contains t.name &&
    !structuralOpenings.any fun opening => opening.toList.isPrefixOf t.name.toList

end HostType

end Phrasebook
