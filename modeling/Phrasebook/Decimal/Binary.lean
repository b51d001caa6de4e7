/-!
# Phrasebook.Decimal.Binary

Decimals, and the binary fractions of double precision nearest to them: a mantissa of at most 53
bits times a power of two between `2 ^ -1074` and `2 ^ 971`. A decimal halfway between two of them
goes to the one with the even mantissa. All arithmetic is on integers and exact.
-/

namespace Phrasebook

/-- The number `digits * 10 ^ exponent`. -/
structure Decimal where
  digits : Nat
  exponent : Int
deriving DecidableEq

/-- The number `mantissa * 2 ^ exponent`. -/
structure Binary where
  mantissa : Nat
  exponent : Int
deriving DecidableEq

namespace Decimal

/-- The power of a base as numerator and denominator. -/
def power (base : Nat) (exponent : Int) : Nat × Nat :=
  if 0 ≤ exponent then (base.pow exponent.toNat, 1) else (1, base.pow (-exponent).toNat)

/-- How many digits a number has. -/
def width (n : Nat) : Nat := (Nat.toDigits 10 n).length

/-- The quotient rounded to the nearest integer; a half goes to the even neighbour. -/
def roundDiv (n d : Nat) : Nat :=
  let q := n / d
  let r := n % d
  if 2 * r < d then q
  else if d < 2 * r then q + 1
  else if q % 2 = 0 then q else q + 1

/-- `n / d` in units of `2 ^ e`, rounded. -/
def inUnits (n d : Nat) (e : Int) : Nat :=
  let (p, q) := power 2 e
  roundDiv (n * q) (d * p)

/-- The exponent with which the mantissa of `n / d` takes 53 bits, or the least one there is. -/
def unitOf (n d : Nat) : Int :=
  let low : Int := (n.log2 : Int) - d.log2 - 53
  let (p, q) := power 2 low
  max (if n * q < Nat.pow 2 53 * (d * p) then low else low + 1) (-1074)

/-- The nearest binary fraction to a positive quotient, `none` if it is too large for all of
them. -/
def nearestTo (n d : Nat) : Option Binary :=
  let e := unitOf n d
  let m := inUnits n d e
  let b : Binary := if m = Nat.pow 2 53 then ⟨Nat.pow 2 52, e + 1⟩ else ⟨m, e⟩
  if 971 < b.exponent then none else some b

/-- The nearest binary fraction, `none` if the number is too large. The first two cases spare the
arithmetic where the size of the number decides. -/
def nearest (x : Decimal) : Option Binary :=
  let size := (width x.digits : Int) + x.exponent
  if x.digits = 0 ∨ size < -330 then some ⟨0, 0⟩
  else if 310 < size then none
  else
    let (p, q) := power 10 x.exponent
    nearestTo (x.digits * p) q

end Decimal

end Phrasebook
