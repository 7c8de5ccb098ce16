import PageLinker.Toml.Quoting
import PageLinker.Toml.Value

/-!
# Numbers of a TOML document

Integers are decimal with an optional sign, or hexadecimal, octal or binary behind a lead of their
own.  A fraction or an exponent makes a number a float.  Single underscores may stand between
digits.
-/

namespace PageLinker

namespace Toml

def digitValue? (base : Nat) (c : Char) : Option Nat :=
  (hexValue? c).filter (· < base)

/-- Digits that continue a number, each perhaps behind an underscore, and the rest. -/
def moreDigits (base : Nat) : List Char → List Nat × List Char
  | [] => ([], [])
  | '_' :: c :: rest =>
      match digitValue? base c with
      | some digit =>
          let (digits, after) := moreDigits base rest
          (digit :: digits, after)
      | none => ([], '_' :: c :: rest)
  | c :: rest =>
      match digitValue? base c with
      | some digit =>
          let (digits, after) := moreDigits base rest
          (digit :: digits, after)
      | none => ([], c :: rest)

/-- At least one digit, and the rest. -/
def digitRun (base : Nat) : List Char → Option (List Nat × List Char)
  | [] => none
  | c :: rest =>
      match digitValue? base c with
      | some digit =>
          let (digits, after) := moreDigits base rest
          some (digit :: digits, after)
      | none => none

/-- The number that digits stand for. -/
def ofDigits (base : Nat) (digits : List Nat) : Nat :=
  digits.foldl (fun number digit => base * number + digit) 0

/-- A sign, if there is one: whether it is a minus, and the rest. -/
def sign : List Char → Bool × List Char
  | '+' :: rest => (false, rest)
  | '-' :: rest => (true, rest)
  | text => (false, text)

/-- The whole part of a decimal number.  A leading zero stands alone. -/
def wholePart : List Char → Option (List Nat × List Char)
  | '0' :: rest => some ([0], rest)
  | text => digitRun 10 text

/-- The digits behind the point, if a fraction follows. -/
def fractionPart : List Char → Option (List Nat × List Char)
  | '.' :: rest => digitRun 10 rest
  | _ => none

/-- The power of ten, if an exponent follows. -/
def exponentPart : List Char → Option (Int × List Char)
  | c :: rest =>
      if c == 'e' || c == 'E' then
        let (negative, unsigned) := sign rest
        (digitRun 10 unsigned).map fun read =>
          (if negative then -(ofDigits 10 read.1 : Int) else ofDigits 10 read.1, read.2)
      else none
  | [] => none

/-- An integer in another base behind its lead. -/
def basedInteger : List Char → Option (Nat × List Char)
  | '0' :: 'x' :: rest => (digitRun 16 rest).map fun read => (ofDigits 16 read.1, read.2)
  | '0' :: 'o' :: rest => (digitRun 8 rest).map fun read => (ofDigits 8 read.1, read.2)
  | '0' :: 'b' :: rest => (digitRun 2 rest).map fun read => (ofDigits 2 read.1, read.2)
  | _ => none

def decimalNumber (text : List Char) : Option (Value × List Char) :=
  let (negative, unsigned) := sign text
  match wholePart unsigned with
  | none => none
  | some (whole, afterWhole) =>
      let fraction := fractionPart afterWhole
      let (fractionDigits, afterFraction) := fraction.getD ([], afterWhole)
      let exponent := exponentPart afterFraction
      let (power, afterExponent) := exponent.getD (0, afterFraction)
      if fraction.isNone && exponent.isNone then
        let number : Int := ofDigits 10 whole
        some (.integer (if negative then -number else number), afterWhole)
      else
        some (.float (.ofDecimal negative (ofDigits 10 (whole ++ fractionDigits))
          (power - fractionDigits.length)), afterExponent)

/-- A float that is not written with digits. -/
def namedFloat (text : List Char) : Option (Value × List Char) :=
  let (negative, unsigned) := sign text
  match unsigned with
  | 'i' :: 'n' :: 'f' :: rest => some (.float (.infinite negative), rest)
  | 'n' :: 'a' :: 'n' :: rest => some (.float .notANumber, rest)
  | _ => none

def number (text : List Char) : Option (Value × List Char) :=
  match basedInteger text with
  | some (value, rest) => some (.integer value, rest)
  | none => decimalNumber text <|> namedFloat text

end Toml

end PageLinker
