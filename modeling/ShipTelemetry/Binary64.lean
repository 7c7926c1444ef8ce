import ShipTelemetry.Decimal

/-!
# Finite binary64 numbers

A finite binary64 number is a sign and a magnitude.  Every magnitude is a whole multiple of
the least positive one, `2 ^ -1074`, so it is kept as `significand · 2 ^ shift` of these
units.  The significand has at most 53 bits, and exactly 53 unless the shift is zero; so
each magnitude has one form, and two numbers are equal exactly when their bit patterns are.
Powers are written with `Nat.pow`: an exponent sign would be read as that of some monoid
wherever there are monoids.

A decimal literal is read as its exact value, a quotient of two natural numbers, and this is
rounded once, to the nearest magnitude, a tie to the even significand.  A value of `2 ^ 1024
- 2 ^ 970` or more has no nearest magnitude.  The powers of ten in a literal may be far out of
range.  So the count of digits before the point is looked at first: from 310 digits on the value
is too large, and with 325 or more zeros after the point it is nearer to zero than to the least
positive number.

A number is written with the fewest significant digits that read back to it.  Among decimals
of that many digits the nearest is taken, of two equally near ones the larger.  Digits are
written in place, never with an exponent; a whole number has no point.  Every magnitude is a
multiple of `2 ^ -1074`, which is `5 ^ 1074 / 10 ^ 1074`; so it has an exact expansion with 1074
decimal places, and cutting digits off the right end of that expansion gives all decimals that
come into question.
-/

namespace ShipTelemetry

/-- The magnitude of a finite binary64 number, in units of `2 ^ -1074`. -/
structure Magnitude where
  significand : Nat
  shift : Nat
  fits : significand < Nat.pow 2 53 ∧ shift ≤ 2045 ∧ (shift = 0 ∨ Nat.pow 2 52 ≤ significand)
deriving DecidableEq, Repr

namespace Magnitude

/-- The magnitude zero. -/
def zero : Magnitude := ⟨0, 0, by decide⟩

instance : Inhabited Magnitude := ⟨zero⟩

/-- How many units of `2 ^ -1074` the magnitude holds. -/
def units (m : Magnitude) : Nat := m.significand * Nat.pow 2 m.shift

/-- The magnitude with these parts, if they are in range. -/
def ofParts? (significand shift : Nat) : Option Magnitude :=
  if h : significand < Nat.pow 2 53 ∧ shift ≤ 2045 ∧ (shift = 0 ∨ Nat.pow 2 52 ≤ significand) then
    some ⟨significand, shift, h⟩
  else none

end Magnitude

/-- A finite binary64 number.  Zero has two signs. -/
structure Binary64 where
  negative : Bool
  magnitude : Magnitude
deriving DecidableEq, Repr, Inhabited

namespace Binary64

/-- Zero with its sign taken off; every other number as it is.  This is the sum with `+0`.
-/
def addZero (x : Binary64) : Binary64 :=
  if x.magnitude = .zero then { x with negative := false } else x

/-- The number is below zero, which no zero is. -/
def isBelowZero (x : Binary64) : Bool :=
  x.negative && x.magnitude ≠ .zero

end Binary64

/-! ## The nearest number -/

/-- The quotient of two natural numbers rounded to the nearest whole number, a tie to the
even one. -/
def roundHalfEven (num den : Nat) : Nat :=
  let quotient := num / den
  let rest := num % den
  if 2 * rest < den ∨ (2 * rest = den ∧ quotient % 2 = 0) then quotient else quotient + 1

namespace Magnitude

/-- The magnitude nearest to `num / den` units, a tie to the even significand; `none` if it
is too large.  The shift is the least that leaves no more than 53 bits, and rounding may
carry into a 54th. -/
def nearest? (num den : Nat) : Option Magnitude :=
  let shift := (num / den).log2 - 52
  let significand := roundHalfEven num (den * Nat.pow 2 shift)
  if significand = Nat.pow 2 53 then ofParts? (Nat.pow 2 52) (shift + 1)
  else ofParts? significand shift

/-- The magnitude nearest to `coefficient · 10 ^ place`. -/
def ofDecimal? (coefficient : Nat) (place : Int) : Option Magnitude :=
  nearest? (coefficient * Nat.pow 10 place.toNat * Nat.pow 2 1074) (Nat.pow 10 (-place).toNat)

/-- The magnitude nearest to the value of a literal without its sign. -/
def ofLiteral? (l : Decimal.Literal) : Option Magnitude :=
  let size : Int := l.significant.length + l.place
  if l.significant = [] ∨ size < -324 then some zero
  else if 310 ≤ size then none
  else ofDecimal? l.coefficient l.place

end Magnitude

namespace Binary64

/-- The finite number nearest to the value of a literal, with the sign of the literal. -/
def ofLiteral? (l : Decimal.Literal) : Option Binary64 :=
  (Magnitude.ofLiteral? l).map fun magnitude => { negative := l.negative, magnitude }

/-- Reads a decimal literal to the nearest finite number. -/
def read? (cs : List Char) : Option Binary64 :=
  (Decimal.Literal.read? cs).bind ofLiteral?

end Binary64

/-! ## The shortest decimal form -/

namespace Magnitude

/-- The number of decimal places of the exact expansion. -/
def places : Nat := 1074

/-- The exact expansion as one natural number: the magnitude is `expansion / 10 ^ places`.
-/
def expansion (m : Magnitude) : Nat := m.units * Nat.pow 5 places

/-- The decimal `head` followed by `dropped` zeros, in the last place of the expansion, is
read as `m`. -/
def readsBack (m : Magnitude) (head dropped : Nat) : Bool :=
  nearest? (head * Nat.pow 10 dropped) (Nat.pow 5 places) = some m

/-- What is left of the expansion when its last `dropped` digits are rounded away, if that
can be done so that the result reads back.  Of the two neighbours that qualify the nearer
one is taken, the upper one in a tie. -/
def rounded? (m : Magnitude) (dropped : Nat) : Option Nat :=
  let head := m.expansion / Nat.pow 10 dropped
  let rest := m.expansion % Nat.pow 10 dropped
  if m.readsBack head dropped then
    if m.readsBack (head + 1) dropped then
      some (if 2 * rest < Nat.pow 10 dropped then head else head + 1)
    else some head
  else if m.readsBack (head + 1) dropped then some (head + 1)
  else none

/-- The expansion with as many of its last digits rounded away as possible, at most
`dropped`, and zeros in their place. -/
def shortened (m : Magnitude) : Nat → Nat
  | 0 => m.expansion
  | dropped + 1 =>
      ((m.rounded? (dropped + 1)).map (· * Nat.pow 10 (dropped + 1))).getD (m.shortened dropped)

/-- The shortest decimal that reads back, in units of the last place of the expansion. -/
def shortest (m : Magnitude) : Nat :=
  m.shortened ((Decimal.digits m.expansion).length - 1)

/-- Writes `n / 10 ^ places` in place, without zeros at the end of the fraction. -/
def inPlace (n places : Nat) : List Char :=
  let fraction := Decimal.digits (n % Nat.pow 10 places)
  let padded := List.replicate (places - fraction.length) '0' ++ fraction
  let trimmed := (padded.reverse.dropWhile (· = '0')).reverse
  Decimal.digits (n / Nat.pow 10 places) ++ if trimmed = [] then [] else '.' :: trimmed

/-- The shortest decimal form. -/
def display (m : Magnitude) : List Char := inPlace m.shortest places

end Magnitude

namespace Binary64

/-- The shortest decimal form, with a minus for a negative sign. -/
def display (x : Binary64) : String :=
  String.ofList (if x.negative then '-' :: x.magnitude.display else x.magnitude.display)

/- No exponent is ever written, and of two decimals that are equally near the larger one is
taken. -/
example : (read? "1e21".toList).map display = some "1000000000000000000000" := by
  decide +kernel

example : (read? "-1701285490055565.25".toList).map display =
    some "-1701285490055565.3" := by decide +kernel

end Binary64

end ShipTelemetry
