/-!
# Decimal numbers

A numeral is an optional plus sign and one or more decimal digits, with any number of
leading zeros.  It is read from left to right into a natural number not above a limit; the
first character at which this fails decides the error.

A decimal literal is an optional sign, digits with at most one point among or around them
(at least one digit in all), and an optional exponent: `e` or `E`, an optional sign, at
least one digit.  There are no blanks, no separators and no words in it.  Its value is the
exact rational `± whole.fraction · 10 ^ exponent`.
-/

namespace ShipTelemetry.Decimal

/-! ## Bounded numerals -/

/-- Why a text is no numeral within its limit. -/
inductive NumeralError
  | empty
  | invalidDigit
  | tooLarge
deriving DecidableEq, Repr

/-- The wording of an error. -/
def NumeralError.message : NumeralError → String
  | .empty => "cannot parse integer from empty string"
  | .invalidDigit => "invalid digit found in string"
  | .tooLarge => "number too large to fit in target type"

/-- The value of a decimal digit. -/
def digitValue (c : Char) : Nat := c.toNat - '0'.toNat

/-- Reads digits on top of a value read already. -/
def readDigits (limit : Nat) : Nat → List Char → Except NumeralError Nat
  | value, [] => .ok value
  | value, c :: rest =>
      if c.isDigit then
        let next := 10 * value + digitValue c
        if next ≤ limit then readDigits limit next rest else .error .tooLarge
      else .error .invalidDigit

/-- Reads a numeral whose value is at most `limit`. -/
def readNumeral (limit : Nat) : List Char → Except NumeralError Nat
  | [] => .error .empty
  | ['+'] => .error .invalidDigit
  | '+' :: rest => readDigits limit 0 rest
  | cs => readDigits limit 0 cs

/-- The decimal digits of a natural number, without leading zeros. -/
def digits (n : Nat) : List Char := Nat.toDigits 10 n

/-- A natural number in decimal. -/
def text (n : Nat) : String := String.ofList (digits n)

/-! ## Literals -/

/-- A decimal literal, taken apart. -/
structure Literal where
  negative : Bool
  whole : List Char
  fraction : List Char
  exponent : Int
deriving DecidableEq, Repr

/-- Cuts off a sign; `true` for a minus. -/
def splitSign : List Char → Bool × List Char
  | '-' :: rest => (true, rest)
  | '+' :: rest => (false, rest)
  | cs => (false, cs)

/-- Cuts off the longest run of digits. -/
def splitDigits (cs : List Char) : List Char × List Char :=
  (cs.takeWhile Char.isDigit, cs.dropWhile Char.isDigit)

/-- Cuts off a point and the digits after it. -/
def splitFraction : List Char → List Char × List Char
  | '.' :: rest => splitDigits rest
  | cs => ([], cs)

/-- The value of a run of digits. -/
def digitsValue (cs : List Char) : Nat := Nat.ofDigitChars 10 cs 0

/-- Reads what stands after the digits: nothing, or an exponent. -/
def readExponent? : List Char → Option Int
  | [] => some 0
  | c :: rest =>
      if c = 'e' ∨ c = 'E' then
        let (negative, digits) := splitSign rest
        if digits ≠ [] ∧ digits.all Char.isDigit then
          some (if negative then -(digitsValue digits : Int) else digitsValue digits)
        else none
      else none

namespace Literal

/-- Reads a decimal literal that takes up the whole text. -/
def read? (cs : List Char) : Option Literal :=
  let (negative, unsigned) := splitSign cs
  let (whole, afterWhole) := splitDigits unsigned
  let (fraction, afterFraction) := splitFraction afterWhole
  if whole = [] ∧ fraction = [] then none
  else (readExponent? afterFraction).map fun exponent =>
    { negative, whole, fraction, exponent }

/-- All digits of the literal, before and after the point. -/
def allDigits (l : Literal) : List Char := l.whole ++ l.fraction

/-- The digits from the first one that is not zero. -/
def significant (l : Literal) : List Char := l.allDigits.dropWhile (· = '0')

/-- The digits as one natural number; the literal is `± coefficient · 10 ^ place`. -/
def coefficient (l : Literal) : Nat := digitsValue l.allDigits

/-- The power of ten that the last digit counts. -/
def place (l : Literal) : Int := l.exponent - l.fraction.length

end Literal

end ShipTelemetry.Decimal
