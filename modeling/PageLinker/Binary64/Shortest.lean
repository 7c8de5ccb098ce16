import PageLinker.Binary64

/-!
# Shortest decimal text of a number

A number is written with the fewest digits that read back as the same number; among those with
equally few digits the nearest one is taken.  Numbers from `1e-4` to below `1e16` are written
positionally, with `.0` behind a whole number, and all others with an exponent of at least two
digits.
-/

namespace PageLinker

namespace Binary64

/-- The power `k` of ten with `10 ^ (k - 1) ≤ x < 10 ^ k`, for a fraction `x` of at least
`10 ^ (-400)`. -/
def decimalMagnitude (numerator denominator : Nat) : Int :=
  ((Nat.toDigits 10 (numerator * Nat.pow 10 400 / denominator)).length : Int) - 400

/-- The decimal on the grid of the given power of ten that is nearest to a fraction; of two
equally near ones the even one. -/
def nearestDecimal (numerator denominator : Nat) (power : Int) : Nat :=
  let (scaledNumerator, scaledDenominator) := scaledDown 10 power numerator denominator
  roundedQuotient scaledNumerator scaledDenominator

/-- The neighbour of a fraction on the grid that lies on its other side. -/
def otherDecimal (numerator denominator : Nat) (power : Int) : Nat :=
  let (scaledNumerator, scaledDenominator) := scaledDown 10 power numerator denominator
  let below := scaledNumerator / scaledDenominator
  if roundedQuotient scaledNumerator scaledDenominator = below then below + 1 else below

/-- A decimal on the grid that reads back as the finite number, if there is one: one of the two
neighbours of the number, and the nearer one first. -/
def readingBack (mantissa : Nat) (exponent : Int) (numerator denominator : Nat) (power : Int) :
    Option (Nat × Int) :=
  let readsBack (digits : Nat) : Bool :=
    ofDecimal false digits power == .finite false mantissa exponent
  let closest := nearestDecimal numerator denominator power
  let other := otherDecimal numerator denominator power
  if readsBack closest then some (closest, power)
  else if readsBack other then some (other, power)
  else none

/-- The shortest decimal that reads back as a positive finite number.  Seventeen digits always
do, so that the nearest decimal of that length is the last resort. -/
def shortestDecimal (mantissa : Nat) (exponent : Int) : Nat × Int :=
  let (numerator, denominator) := scaledDown 2 (-exponent) mantissa 1
  let magnitude := decimalMagnitude numerator denominator
  let shorter := (List.range 16).findSome? fun (count : Nat) =>
    readingBack mantissa exponent numerator denominator (magnitude - (count + 1 : Nat))
  shorter.getD (nearestDecimal numerator denominator (magnitude - 17), magnitude - 17)

/-- Digits without the zeros at their end, and the power of ten that the first digit stands
below. -/
def significantDigits (digits : Nat) (power : Int) : List Char × Int :=
  let all := Nat.toDigits 10 digits
  ((all.reverse.dropWhile (· == '0')).reverse, (all.length : Int) + power)

/-- The positional form of digits, the first of which stands just below `10 ^ point`. -/
def positional (digits : List Char) (point : Int) : List Char :=
  if point ≤ 0 then '0' :: '.' :: (List.replicate (-point).toNat '0' ++ digits)
  else
    let whole := digits.take point.toNat
    let filled := whole ++ List.replicate (point.toNat - whole.length) '0'
    let fraction := digits.drop point.toNat
    filled ++ '.' :: (if fraction.isEmpty then ['0'] else fraction)

def scientific (digits : List Char) (point : Int) : List Char :=
  let power := point - 1
  let fraction := digits.drop 1
  let magnitude := (Nat.toDigits 10 power.natAbs).leftpad 2 '0'
  digits.take 1 ++ (if fraction.isEmpty then [] else '.' :: fraction) ++
    'e' :: (if power < 0 then '-' else '+') :: magnitude

/-- The text of a positive or zero number. -/
def magnitudeChars (mantissa : Nat) (exponent : Int) : List Char :=
  if mantissa = 0 then ['0', '.', '0']
  else
    let (decimal, power) := shortestDecimal mantissa exponent
    let (digits, point) := significantDigits decimal power
    if -4 < point ∧ point ≤ 16 then positional digits point else scientific digits point

def text : Binary64 → String
  | .notANumber => "nan"
  | .infinite negative => if negative then "-inf" else "inf"
  | .finite negative mantissa exponent =>
      (if negative then "-" else "") ++ String.ofList (magnitudeChars mantissa exponent)

end Binary64

end PageLinker
