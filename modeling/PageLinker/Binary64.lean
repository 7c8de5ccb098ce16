/-!
# Binary floating-point numbers

Numbers of 64 bits: a sign, a mantissa below `2 ^ 53` and a power of two, next to the infinities
and the value that is not a number.  A decimal is read as the number nearest to it, and a decimal
halfway between two numbers as the one with the even mantissa.
-/

namespace PageLinker

/-- A binary floating-point number of 64 bits.  A finite number is its mantissa times two to the
power of its exponent. -/
inductive Binary64 where
  | notANumber
  | infinite (negative : Bool)
  | finite (negative : Bool) (mantissa : Nat) (exponent : Int)
  deriving DecidableEq, Repr

namespace Binary64

/-- The least exponent, that of the numbers next to zero. -/
def leastExponent : Int := -1074

/-- The greatest exponent, that of the largest numbers. -/
def greatestExponent : Int := 971

/-- The leading bit of a mantissa of 53 bits. -/
def hiddenBit : Nat := Nat.pow 2 52

/-- The natural number nearest to a quotient; of two equally near ones the even one. -/
def roundedQuotient (numerator denominator : Nat) : Nat :=
  let quotient := numerator / denominator
  let twice := 2 * (numerator % denominator)
  if twice < denominator then quotient
  else if denominator < twice then quotient + 1
  else if quotient % 2 = 0 then quotient
  else quotient + 1

/-- A fraction divided by `base ^ power`, as numerator and denominator. -/
def scaledDown (base : Nat) (power : Int) (numerator denominator : Nat) : Nat × Nat :=
  (numerator * Nat.pow base (-power).toNat, denominator * Nat.pow base power.toNat)

/-- The exponent at which a positive fraction has a mantissa of 53 bits. -/
def normalExponent (numerator denominator : Nat) : Int :=
  let guess : Int := (numerator.log2 : Int) - (denominator.log2 : Int) - 52
  let (scaledNumerator, scaledDenominator) := scaledDown 2 guess numerator denominator
  if scaledNumerator < hiddenBit * scaledDenominator then guess - 1 else guess

def nearest (negative : Bool) (numerator denominator : Nat) : Binary64 :=
  if numerator = 0 then .finite negative 0 leastExponent
  else
    let exponent := max (normalExponent numerator denominator) leastExponent
    let (scaledNumerator, scaledDenominator) := scaledDown 2 exponent numerator denominator
    let mantissa := roundedQuotient scaledNumerator scaledDenominator
    let (mantissa, exponent) :=
      if mantissa = 2 * hiddenBit then (hiddenBit, exponent + 1) else (mantissa, exponent)
    if greatestExponent < exponent then .infinite negative
    else .finite negative mantissa exponent

/-- The number nearest to `digits * 10 ^ power`.  A power far out of range is settled by the
number of digits alone. -/
def ofDecimal (negative : Bool) (digits : Nat) (power : Int) : Binary64 :=
  if digits = 0 then .finite negative 0 leastExponent
  else
    let magnitude := ((Nat.toDigits 10 digits).length : Int) + power
    if 310 < magnitude then .infinite negative
    else if magnitude < -330 then .finite negative 0 leastExponent
    else
      let (numerator, denominator) := scaledDown 10 (-power) digits 1
      nearest negative numerator denominator

/-- The number is a zero of either sign. -/
def isZero : Binary64 → Bool
  | .finite _ mantissa _ => mantissa == 0
  | _ => false

end Binary64

end PageLinker
