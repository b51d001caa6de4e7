import Phrasebook.HostType
/-!
# Phrasebook.Element

What a descriptor makes on request. The library never looks into an element; it keeps the factory
and calls it when the matcher wants a fresh one.

A factory answers by the number of calls made to it before, so a factory that counts its calls is
a function like any other.
-/

namespace Phrasebook

/-- An element fresh from its factory: its concrete type, and which of the values of that type it
is. A number stands for the value, since nobody here looks into it. -/
structure Element where
  type : HostType
  value : Nat
deriving DecidableEq

namespace Element

/-- Whether `type` is the concrete type of the element. -/
def is (e : Element) (type : HostType) : Bool := e.type = type

/-- The element as a value of `type`, if that is its concrete type. -/
def downcast? (e : Element) (type : HostType) : Option Nat :=
  if e.is type then some e.value else none

end Element

/-- Makes elements: `f n` is the element of the call that `n` calls came before. -/
abbrev Factory := Nat → Element

/-- Makes the same element on every call. -/
def Factory.always (e : Element) : Factory := fun _ => e

end Phrasebook
