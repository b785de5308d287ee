/-!
The shortest decimal that reads back as a given binary floating-point number, found in exact
natural-number arithmetic.
-/

namespace NetworkTwin.Decimal

/-- A finite binary number without its sign: `significand · 2 ^ exponent`. -/
structure Binary where
  significand : Nat
  exponent : Int

/-- A decimal number without its sign: `digits · 10 ^ exponent`. -/
structure Scaled where
  digits : Nat
  exponent : Int
deriving DecidableEq, Repr

/-- The least significand with 53 bits. -/
def fullSignificand : Nat := 0x10000000000000

/-- The magnitude of a double, read off its bits. Meant for finite numbers only. -/
def Binary.ofFloat (x : Float) : Binary :=
  let bits : Nat := x.toBits.toNat
  let fraction : Nat := bits % fullSignificand
  let field : Nat := bits / fullSignificand % 2048
  if field = 0 then { significand := fraction, exponent := -1074 }
  else { significand := fullSignificand + fraction, exponent := Int.ofNat field - 1075 }

def isNegative (x : Float) : Bool := UInt64.size / 2 ≤ x.toBits.toNat

/-- The half of the gap below a binary number is a quarter of its unit where the significand is
the least with 53 bits, and half a unit elsewhere. Numbers and gaps are given in quarter units. -/
def Binary.quarters (number : Binary) : Nat × Nat × Nat :=
  let middle := 4 * number.significand
  let below := if number.significand = fullSignificand ∧ number.exponent ≠ -1074 then 1 else 2
  (middle - below, middle, middle + 2)

/-- The numerator and the denominator by which a quarter unit of a binary number is a multiple
of `10 ^ exponent`. -/
def Binary.ratio (number : Binary) (exponent : Int) : Nat × Nat :=
  let shift := number.exponent - 2
  let numerator := Nat.pow 2 shift.toNat * Nat.pow 10 (-exponent).toNat
  let denominator := Nat.pow 2 (-shift).toNat * Nat.pow 10 exponent.toNat
  (numerator, denominator)

/-- The decimal at one exponent that is nearest to a binary number, if it reads back: of the two
neighbours on the grid the nearer, of two equally near the even one. A neighbour at half a gap
reads back exactly if the significand is even. -/
def Binary.onGrid? (number : Binary) (exponent : Int) : Option Nat :=
  let (low, middle, high) := number.quarters
  let (numerator, denominator) := number.ratio exponent
  let floor := middle * numerator / denominator
  let within (candidate : Nat) : Bool :=
    let scaled := candidate * denominator
    if number.significand % 2 = 0 then
      low * numerator ≤ scaled && scaled ≤ high * numerator
    else low * numerator < scaled && scaled < high * numerator
  let remainder := 2 * (middle * numerator % denominator)
  let roundsUp := remainder > denominator || (remainder == denominator && floor % 2 == 1)
  let nearer := if roundsUp then floor + 1 else floor
  let farther := if roundsUp then floor else floor + 1
  if nearer ≠ 0 && within nearer then some nearer
  else if farther ≠ 0 && within farther then some farther
  else none

/-- The first of a number of grids, each ten times finer than the one before, that has a decimal
which reads back. -/
def Binary.firstGrid (number : Binary) : Nat → Int → Scaled
  | 0, exponent => ⟨(number.onGrid? exponent).getD 0, exponent⟩
  | grids + 1, exponent =>
      match number.onGrid? exponent with
      | some digits => ⟨digits, exponent⟩
      | none => number.firstGrid grids (exponent - 1)

def digitCount (value : Nat) : Nat := (toString value).length

/-- The exponent of the leading decimal digit of a binary number that is not zero. -/
def Binary.order (number : Binary) : Int :=
  let numerator := number.significand * Nat.pow 2 number.exponent.toNat
  let denominator := Nat.pow 2 (-number.exponent).toNat
  if denominator ≤ numerator then digitCount (numerator / denominator) - 1
  else
    let places := digitCount (denominator / numerator) - 1
    if denominator ≤ numerator * Nat.pow 10 places then -places else -(places + 1)

/-- Moves trailing zeros of the digits into the exponent, a number of them at most. -/
def Scaled.strip : Nat → Scaled → Scaled
  | 0, decimal => decimal
  | zeros + 1, decimal =>
      if decimal.digits ≠ 0 ∧ decimal.digits % 10 = 0 then
        Scaled.strip zeros ⟨decimal.digits / 10, decimal.exponent + 1⟩
      else decimal

/-- The shortest decimal that reads back as the magnitude of a finite double, and of those the
nearest to it. Seventeen digits always suffice. -/
def shortest (x : Float) : Scaled :=
  let number := Binary.ofFloat x
  if number.significand = 0 then ⟨0, 0⟩
  else (number.firstGrid 17 number.order).strip 18

end NetworkTwin.Decimal
