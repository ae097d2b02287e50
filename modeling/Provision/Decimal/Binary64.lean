/-!
# Binary floating-point numbers

A finite number of the format binary64 is a whole number below 2 ^ 53 times a power of two. A
decimal number is read as the nearest of them, and of two equally near ones as the one with the even
whole number; what is too large for the format is read as infinite.
-/

namespace Provision

/-- A number of the format binary64. A finite one has the magnitude `mantissa` times two to the
power of `exponent`. -/
inductive Binary64 where
  | notANumber
  | infinite (negative : Bool)
  | finite (negative : Bool) (mantissa : Nat) (exponent : Int)
  deriving DecidableEq, Repr

namespace Binary64

def leastExponent : Int := -1074

def greatestExponent : Int := 971

def divideToEven (dividend divisor : Nat) : Nat :=
  let quotient := dividend / divisor
  let twice := 2 * (dividend % divisor)
  if twice < divisor ∨ (twice = divisor ∧ quotient % 2 = 0) then quotient else quotient + 1

/-- A quotient of whole numbers, as a power of the base is moved from one to the other. -/
def scaled (base : Nat) (power : Int) (dividend divisor : Nat) : Nat × Nat :=
  if 0 ≤ power then (dividend * Nat.pow base power.toNat, divisor)
  else (dividend, divisor * Nat.pow base (-power).toNat)

/-- The exponent with which a positive quotient keeps 53 binary digits, or fewer at the least
exponent. -/
def exponentOf (dividend divisor : Nat) : Int :=
  let guess : Int := (dividend.log2 : Int) - (divisor.log2 : Int) - 52
  let (above, below) := scaled 2 (-guess) dividend divisor
  max leastExponent (if above < below * Nat.pow 2 52 then guess - 1 else guess)

def ofQuotient (negative : Bool) (dividend divisor : Nat) : Binary64 :=
  if dividend = 0 then .finite negative 0 leastExponent
  else
    let exponent := exponentOf dividend divisor
    let (above, below) := scaled 2 (-exponent) dividend divisor
    let mantissa := divideToEven above below
    let (mantissa, exponent) :=
      if mantissa = Nat.pow 2 53 then (Nat.pow 2 52, exponent + 1) else (mantissa, exponent)
    if greatestExponent < exponent then .infinite negative
    else .finite negative mantissa exponent

/-- The nearest number of the format to `digits` times ten to the power of `power`. Powers that
decide by themselves that the number is infinite or zero are never computed. -/
def ofDecimal (negative : Bool) (digits : Nat) (power : Int) : Binary64 :=
  let magnitude : Int := (Nat.toDigits 10 digits).length + power
  if digits = 0 ∨ magnitude < -330 then .finite negative 0 leastExponent
  else if 310 < magnitude then .infinite negative
  else
    let (dividend, divisor) := scaled 10 power digits 1
    ofQuotient negative dividend divisor

end Binary64

end Provision
