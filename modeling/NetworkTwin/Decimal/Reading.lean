import NetworkTwin.Text.Numeral
import NetworkTwin.Decimal.Shortest

/-!
Decimal numerals as doubles, in two ways. `nearest?` rounds the exact value once. `scale?` is the
rule of data documents: digits are kept while they fit 64 bits, and the kept digits are scaled by a
power of ten in double arithmetic, which may end a unit away from the nearest double.
-/

namespace NetworkTwin.Decimal

structure Parts where
  negative : Bool
  whole : List Char
  fraction : Option (List Char)
  /-- The sign of the exponent (true for minus) and its digits, if there is an exponent. -/
  exponent : Option (Bool × List Char)

/-- Cuts an exponent: a letter, perhaps a sign, and digits to the end. -/
def cutExponent? : List Char → Option (Option (Bool × List Char))
  | [] => some none
  | letter :: rest =>
      if letter ≠ 'e' ∧ letter ≠ 'E' then none
      else
        let (negative, digits) := match rest with
          | '-' :: digits => (true, digits)
          | '+' :: digits => (false, digits)
          | digits => (false, digits)
        if digits.isEmpty || !digits.all Text.isDigit then none else some (some (negative, digits))

/-- Cuts a text of digits, a point, digits and an exponent. How many digits there have to be is
left to the caller. -/
def Parts.cut? (negative : Bool) (text : List Char) : Option Parts :=
  let whole := text.takeWhile Text.isDigit
  match text.drop whole.length with
  | '.' :: rest =>
      let fraction := rest.takeWhile Text.isDigit
      (cutExponent? (rest.drop fraction.length)).map fun exponent =>
        ⟨negative, whole, some fraction, exponent⟩
  | rest => (cutExponent? rest).map fun exponent => ⟨negative, whole, none, exponent⟩

def Parts.exponentValue (parts : Parts) : Int :=
  match parts.exponent with
  | none => 0
  | some (negative, digits) =>
      let value := Int.ofNat ((Text.digits? 10 digits).getD 0)
      if negative then -value else value

def signed (negative : Bool) (x : Float) : Float := if negative then -x else x

/-- The double nearest to the value of a numeral, unless it is too large for one. -/
def Parts.nearest? (parts : Parts) : Option Float :=
  let fraction := parts.fraction.getD []
  let digits := (Text.digits? 10 (parts.whole ++ fraction)).getD 0
  let exponent := parts.exponentValue - Int.ofNat fraction.length
  let order := Int.ofNat (digitCount digits) + exponent
  if digits = 0 ∨ order < -330 then some (signed parts.negative 0.0)
  else if 310 < order then none
  else
    let magnitude := Float.ofScientific digits (exponent < 0) exponent.natAbs
    if magnitude.isFinite then some (signed parts.negative magnitude) else none

/-- Digits taken into a significand while it fits 64 bits, and the number of digits left over. -/
def keepDigits : Nat → List Char → Nat × Nat
  | significand, [] => (significand, 0)
  | significand, c :: rest =>
      let next := significand * 10 + (c.toNat - '0'.toNat)
      if next < UInt64.size then keepDigits next rest else (significand, rest.length + 1)

def powerOfTen (exponent : Nat) : Float := Float.ofScientific 1 false exponent

/-- A significand times a power of ten in double arithmetic, unless it is too large. Very small
powers are applied in two steps, after which nothing is left. -/
def scaleBy? (significand : Nat) (exponent : Int) : Option Float :=
  let start := (UInt64.ofNat significand).toFloat
  if significand = 0 then some start
  else if 308 < exponent then none
  else if 0 ≤ exponent then
    let scaled := start * powerOfTen exponent.toNat
    if scaled.isInf then none else some scaled
  else if -308 ≤ exponent then some (start / powerOfTen (-exponent).toNat)
  else if -616 ≤ exponent then some (start / powerOfTen 308 / powerOfTen (-exponent - 308).toNat)
  else some 0.0

/-- The double that a numeral with a fraction or an exponent stands for in a data document, unless
it is too large. The exponent itself is read up to 31 bits. -/
def Parts.scale? (parts : Parts) : Option Float :=
  let (whole, dropped) := keepDigits 0 parts.whole
  let fraction := parts.fraction.getD []
  let (significand, unread) := keepDigits whole fraction
  let exponent := Int.ofNat dropped - Int.ofNat (fraction.length - unread)
  (scaleBy? significand (exponent + parts.exponentValue)).map (signed parts.negative)

end NetworkTwin.Decimal
