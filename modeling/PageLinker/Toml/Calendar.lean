import PageLinker.Toml.Number

/-!
# Dates and times of a TOML document

A date is written `year-month-day`, a time `hour:minute:second` with an optional fraction, and both
together with `T` or a blank between them and an optional offset behind.
-/

namespace PageLinker

namespace Toml

/-- A number of exactly the given digits that lies within bounds. -/
def fixedNumber (digits : List Char) (least greatest : Nat) : Option Nat :=
  match digits.mapM (digitValue? 10) with
  | some values =>
      let value := ofDigits 10 values
      if least ≤ value ∧ value ≤ greatest then some value else none
  | none => none

/-- The microseconds of the digits of a fraction, which may be more than six. -/
def microseconds (digits : List Nat) : Nat :=
  ofDigits 10 ((digits ++ List.replicate 6 0).take 6)

/-- A fraction of a second, if one follows. -/
def secondFraction : List Char → Nat × List Char
  | '.' :: rest =>
      let digits := rest.takeWhile Char.isDigit
      if digits.isEmpty then (0, '.' :: rest)
      else (microseconds (digits.filterMap (digitValue? 10)), rest.dropWhile Char.isDigit)
  | text => (0, text)

def clock : List Char → Option (Clock × List Char)
  | a :: b :: ':' :: c :: d :: ':' :: e :: f :: rest => do
      let hour ← fixedNumber [a, b] 0 23
      let minute ← fixedNumber [c, d] 0 59
      let second ← fixedNumber [e, f] 0 59
      let (microsecond, after) := secondFraction rest
      pure (⟨hour, minute, second, microsecond⟩, after)
  | _ => none

/-- Read a date.  A date that no calendar has is refused. -/
def date : List Char → Option (Date × List Char)
  | a :: b :: c :: d :: '-' :: e :: f :: '-' :: g :: h :: rest => do
      let year ← fixedNumber [a, b, c, d] 0 9999
      let month ← fixedNumber [e, f] 1 12
      let day ← fixedNumber [g, h] 1 31
      let read : Date := ⟨year, month, day⟩
      if read.exists? then pure (read, rest) else none
  | _ => none

/-- The digits of an offset, in minutes. -/
def offsetMinutes : List Char → Option (Nat × List Char)
  | a :: b :: ':' :: c :: d :: rest => do
      let hours ← fixedNumber [a, b] 0 23
      let minutes ← fixedNumber [c, d] 0 59
      pure (60 * hours + minutes, rest)
  | _ => none

/-- An offset from universal time, if one follows. -/
def offset (text : List Char) : Option Int × List Char :=
  match text with
  | 'Z' :: rest => (some 0, rest)
  | 'z' :: rest => (some 0, rest)
  | '+' :: rest =>
      match offsetMinutes rest with
      | some (minutes, after) => (some minutes, after)
      | none => (none, text)
  | '-' :: rest =>
      match offsetMinutes rest with
      | some (minutes, after) => (some (-minutes), after)
      | none => (none, text)
  | _ => (none, text)

/-- A time that follows a date, if there is one. -/
def clockAfterDate : List Char → Option (Clock × List Char)
  | c :: rest => if c == 'T' || c == 't' || c == ' ' then clock rest else none
  | [] => none

def moment (text : List Char) : Option (Moment × List Char) :=
  match date text with
  | some (day, afterDate) =>
      match clockAfterDate afterDate with
      | some (time, afterClock) =>
          let (shift, rest) := offset afterClock
          some (.dateTime day time shift, rest)
      | none => some (.date day, afterDate)
  | none => (clock text).map fun read => (.time read.1, read.2)

end Toml

end PageLinker
