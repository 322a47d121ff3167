/-
This file writes double precision numbers with the fewest digits that read back, and keeps
measured amounts, which are whole or fractional as they were given.
-/

import SolidityAudit.Host
import SolidityAudit.Number.Binary64

namespace SolidityAudit.Binary64

/-- A positive number as a fraction together with the bounds of the numbers that round to
it, all over one denominator. -/
structure Neighbourhood where
  lowest : Nat
  exact : Nat
  highest : Nat
  denominator : Nat
  inclusive : Bool

/-- Just above a power of two the lower neighbour is nearer by half. -/
def neighbourhood (mantissa : Nat) (exponent : Int) : Neighbourhood :=
  let below := if mantissa == Nat.pow 2 52 && exponent > leastExponent then 1 else 2
  let (unit, denominator) :=
    if exponent < 2 then (1, Nat.pow 2 (2 - exponent).toNat)
    else (Nat.pow 2 (exponent - 2).toNat, 1)
  { lowest := (4 * mantissa - below) * unit
    exact := 4 * mantissa * unit
    highest := (4 * mantissa + 2) * unit
    denominator := denominator
    inclusive := mantissa % 2 == 0 }

/-- Whether `digits * 10 ^ scale` reads back as the number. -/
def Neighbourhood.contains (area : Neighbourhood) (digits : Nat) (scale : Int) : Bool :=
  let value := if scale < 0 then digits * area.denominator
    else digits * Nat.pow 10 scale.toNat * area.denominator
  let factor := if scale < 0 then Nat.pow 10 (-scale).toNat else 1
  if area.inclusive then area.lowest * factor ≤ value && value ≤ area.highest * factor
  else area.lowest * factor < value && value < area.highest * factor

/-- The number divided by `10 ^ scale`, as a fraction. -/
def Neighbourhood.gridFraction (area : Neighbourhood) (scale : Int) : Nat × Nat :=
  if scale < 0 then (area.exact * Nat.pow 10 (-scale).toNat, area.denominator)
  else (area.exact, area.denominator * Nat.pow 10 scale.toNat)

/-- Of the two multiples of `10 ^ scale` next to the number, the nearer one that reads back. -/
def Neighbourhood.onGrid? (area : Neighbourhood) (scale : Int) : Option Nat :=
  let (numerator, denominator) := area.gridFraction scale
  let nearest := roundedQuotient numerator denominator
  let floor := numerator / denominator
  let other := if nearest == floor then floor + 1 else floor
  if nearest != 0 && area.contains nearest scale then some nearest
  else if other != 0 && area.contains other scale then some other
  else none

/-- The power of ten just above the number, found by walking down from a bound. -/
def Neighbourhood.magnitudeFrom (area : Neighbourhood) : (steps : Nat) → Int → Int
  | 0, power => power
  | steps + 1, power =>
      let (numerator, denominator) := area.gridFraction (power - 1)
      if numerator < denominator then area.magnitudeFrom steps (power - 1) else power

/-- Grids are tried from coarse to fine. -/
def Neighbourhood.shortestFrom (area : Neighbourhood) (magnitude : Int) :
    (steps count : Nat) → Nat × Int
  | 0, count => (area.exact / area.denominator, magnitude - count)
  | steps + 1, count =>
      match area.onGrid? (magnitude - count) with
      | some digits => (digits, magnitude - count)
      | none => area.shortestFrom magnitude steps (count + 1)

/-- Digits and scale of the shortest decimal of a positive number. -/
def shortestDecimal (mantissa : Nat) (exponent : Int) : Nat × Int :=
  let area := neighbourhood mantissa exponent
  let bound : Int := ((mantissa.log2 : Int) + exponent + 1) * 3 / 10 + 2
  area.shortestFrom (area.magnitudeFrom 40 bound) 17 1

/-- Zeros at the end of the digits belong to the scale. -/
def withoutTrailingZeros : (steps digits : Nat) → Int → Nat × Int
  | 0, digits, scale => (digits, scale)
  | steps + 1, digits, scale =>
      if digits != 0 && digits % 10 == 0 then withoutTrailingZeros steps (digits / 10) (scale + 1)
      else (digits, scale)

def zeros (count : Nat) : List Char := List.replicate count '0'

/-- Numbers from `10 ^ -4` up to `10 ^ 16` are written positionally and keep a fraction, the
others with a signed exponent of two digits or more. -/
def writtenDecimal (digits : Nat) (scale : Int) : List Char :=
  let (digits, scale) := withoutTrailingZeros 20 digits scale
  let figures := Nat.toDigits 10 digits
  let point : Int := figures.length + scale
  if -4 < point && point ≤ 16 then
    if point ≤ 0 then '0' :: '.' :: zeros (-point).toNat ++ figures
    else if scale ≥ 0 then figures ++ zeros scale.toNat ++ ['.', '0']
    else figures.take point.toNat ++ '.' :: figures.drop point.toNat
  else
    let power := point - 1
    let powerFigures := Nat.toDigits 10 power.natAbs
    let mantissa := match figures with
      | [] => []
      | [figure] => [figure]
      | figure :: others => figure :: '.' :: others
    mantissa ++ 'e' :: (if power < 0 then '-' else '+') ::
      zeros (2 - powerFigures.length) ++ powerFigures

/-- The written form of a number, with the given words for the values that are not finite. -/
def written (infinity undefined : List Char) : Binary64 → List Char
  | .finite negative mantissa exponent =>
      let magnitude :=
        if mantissa == 0 then ['0', '.', '0']
        else
          let (digits, scale) := shortestDecimal mantissa exponent
          writtenDecimal digits scale
      if negative then '-' :: magnitude else magnitude
  | .infinite negative => if negative then '-' :: infinity else infinity
  | .notANumber => undefined

end SolidityAudit.Binary64

namespace SolidityAudit

inductive Quantity where
  | whole (value : Int)
  | fractional (value : Binary64)
  deriving DecidableEq, Repr, Inhabited

namespace Quantity

/-- Only whole amounts can have too many figures to be written. -/
def unwritable? [Host] : Quantity → Option Nat
  | .whole value => exceededLimit? (figureCount value)
  | .fractional _ => none

def display : Quantity → String
  | .whole value => toString value
  | .fractional value => String.ofList (value.written "inf".toList "nan".toList)

/-- A fractional amount is multiplied only by powers of two within its range. -/
def timesPowerOfTwo? (amount : Quantity) (power : Nat) : Option Quantity :=
  match amount with
  | .whole value => some (.whole (value * Int.ofNat (Nat.pow 2 power)))
  | .fractional value =>
      if power < 1024 then some (.fractional (value.timesPowerOfTwo power)) else none

/-- Whether so many seconds, apart from their sign, come to so many nanoseconds. -/
def reaches (limit : Nat) : Quantity → Bool
  | .whole value => limit ≤ value.natAbs * Nat.pow 10 9
  | .fractional (.finite _ mantissa exponent) =>
      let (numerator, denominator) :=
        Binary64.scaledFraction (mantissa * Nat.pow 10 9) 1 (-exponent)
      limit * denominator ≤ numerator
  | .fractional _ => true

def isNegative : Quantity → Bool
  | .whole value => value < 0
  | .fractional (.finite negative mantissa _) => negative && mantissa != 0
  | .fractional (.infinite negative) => negative
  | .fractional .notANumber => false

end Quantity

end SolidityAudit
