import Phrasebook.Decimal.Binary
/-!
# Phrasebook.Decimal.Shortest

The decimal with the fewest digits that reads back as a given binary fraction, and its positional
notation.

The decimals that read back form an interval around the fraction, its ends included exactly if the
mantissa is even. On the grid of the multiples of a power of ten only the two neighbours of the
fraction can lie in that interval, so the search goes through the grids from coarse to fine. Of two
hits on one grid the nearer is taken, of two that are equally near the greater.
-/

namespace Phrasebook

namespace Binary

/-- The distance to the lower end of the interval, in quarters of a unit. Below the least mantissa
of full width the neighbours lie twice as close. -/
def belowQuarters (b : Binary) : Nat :=
  if b.mantissa = Nat.pow 2 52 ∧ -1074 < b.exponent then 1 else 2

/-- Whether `c * 10 ^ p` reads back as the fraction. -/
def admits (b : Binary) (c : Nat) (p : Int) : Bool :=
  let (s, t) := Decimal.power 10 p
  let (u, v) := Decimal.power 2 (b.exponent - 2)
  let point := c * s * v
  let low := (4 * b.mantissa - b.belowQuarters) * u * t
  let high := (4 * b.mantissa + 2) * u * t
  if b.mantissa % 2 = 0 then low ≤ point && point ≤ high else low < point && point < high

/-- The multiple of `10 ^ p` next to the fraction that reads back as it, if there is one. -/
def onGrid (b : Binary) (p : Int) : Option Decimal :=
  let (s, t) := Decimal.power 10 p
  let (u, v) := Decimal.power 2 b.exponent
  let n := b.mantissa * u * t
  let d := v * s
  let c := n / d
  let nearer := if 2 * (n % d) < d then c else c + 1
  let farther := if 2 * (n % d) < d then c + 1 else c
  if b.admits nearer p then some ⟨nearer, p⟩
  else if b.admits farther p then some ⟨farther, p⟩
  else none

/-- Searches the grids from `10 ^ p` downwards. -/
def search (b : Binary) : Nat → Int → Decimal
  | 0, _ => ⟨0, 0⟩
  | steps + 1, p => (b.onGrid p).getD (b.search steps (p - 1))

/-- A power of ten above the fraction. -/
def ceilingPower (b : Binary) : Int :=
  let (u, v) := Decimal.power 2 b.exponent
  if v ≤ b.mantissa * u then Decimal.width (b.mantissa * u / v)
  else 2 - (Decimal.width (v / (b.mantissa * u)) : Int)

/-- The decimal with the fewest digits that reads back. Seventeen digits are always enough. -/
def shortest (b : Binary) : Decimal :=
  if b.mantissa = 0 then ⟨0, 0⟩ else b.search 20 b.ceilingPower

end Binary

/-- The number in positional notation, with at least one digit behind the point. -/
def Decimal.positional (x : Decimal) : String :=
  let ds := Nat.toDigits 10 x.digits
  if 0 ≤ x.exponent then
    if x.digits = 0 then "0.0"
    else String.ofList (ds ++ List.replicate x.exponent.toNat '0') ++ ".0"
  else
    let places := (-x.exponent).toNat
    let padded := List.replicate (places + 1 - ds.length) '0' ++ ds
    let split := padded.length - places
    String.ofList (padded.take split ++ '.' :: padded.drop split)

end Phrasebook
