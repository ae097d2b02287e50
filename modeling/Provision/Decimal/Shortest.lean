import Provision.Decimal.Binary64

/-!
# The shortest decimal that reads back

A finite number is written with the fewest decimal digits that are read as that number again, and of
two such decimals of equal length with the nearer one, or with the greater one if both are equally
near. The decimals that are read as a number form an interval around it; the search walks from coarse
to fine grids of powers of ten and stops at the first one that has a positive point in the interval.
-/

namespace Provision

namespace Binary64

/-- The decimals around a positive number that are read as that number: all bounds and the number
itself count in units of two to the power of `unit`. -/
structure Neighbourhood where
  lower : Nat
  centre : Nat
  upper : Nat
  unit : Int
  endsBelong : Bool

/-- The interval half way to both neighbours. The neighbour below a power of two is nearer. -/
def neighbourhood (mantissa : Nat) (exponent : Int) : Neighbourhood where
  lower := 4 * mantissa - if mantissa = Nat.pow 2 52 ∧ leastExponent < exponent then 1 else 2
  centre := 4 * mantissa
  upper := 4 * mantissa + 2
  unit := exponent - 2
  endsBelong := mantissa % 2 = 0

def Neighbourhood.holds (around : Neighbourhood) (gridStep unitStep point : Nat) : Bool :=
  let there := point * gridStep
  if around.endsBelong then
    around.lower * unitStep ≤ there && there ≤ around.upper * unitStep
  else around.lower * unitStep < there && there < around.upper * unitStep

/-- The point of the grid of powers of ten that is read as the number and nearest to it. -/
def Neighbourhood.pointOnGrid? (around : Neighbourhood) (power : Int) : Option Nat :=
  let (unitStep, gridStep) := scaled 2 around.unit 1 1
  let (gridStep, unitStep) := scaled 10 power gridStep unitStep
  let below := around.centre * unitStep / gridStep
  let belowHolds := 0 < below && around.holds gridStep unitStep below
  let aboveHolds := around.holds gridStep unitStep (below + 1)
  let belowIsNearer :=
    2 * (around.centre * unitStep) < (2 * below + 1) * gridStep
  if belowHolds && (belowIsNearer || !aboveHolds) then some below
  else if aboveHolds then some (below + 1)
  else none

def Neighbourhood.coarsest (around : Neighbourhood) (power : Int) : Nat → Nat × Int
  | 0 => (0, 0)
  | grids + 1 =>
      match around.pointOnGrid? power with
      | some point => (point, power)
      | none => around.coarsest (power - 1) grids

/-- The digits and the power of ten of the shortest decimal that is read as the number. -/
def shortest (mantissa : Nat) (exponent : Int) : Nat × Int :=
  if mantissa = 0 then (0, 0) else (neighbourhood mantissa exponent).coarsest 309 660

def positional (digits : Nat) (power : Int) : String :=
  let text := Nat.toDigits 10 digits
  if 0 ≤ power then String.ofList (text ++ List.replicate power.toNat '0')
  else
    let places := (-power).toNat
    let padded := List.replicate (places + 1 - text.length) '0' ++ text
    let whole := padded.length - places
    String.ofList (padded.take whole ++ '.' :: padded.drop whole)

def text : Binary64 → String
  | .notANumber => "NaN"
  | .infinite negative => if negative then "-inf" else "inf"
  | .finite negative mantissa exponent =>
      let (digits, power) := shortest mantissa exponent
      (if negative then "-" else "") ++ positional digits power ++ if 0 ≤ power then ".0" else ""

end Binary64

end Provision
