import NetworkTwin.Decimal.Shortest

/-!
Written forms of doubles: positional notation for messages, and the notation of data documents,
which turns to an exponent for very large and very small numbers.
-/

namespace NetworkTwin.Decimal

private def zeros (count : Nat) : String := String.ofList (List.replicate count '0')

def Scaled.positional (decimal : Scaled) : String :=
  let digits := toString decimal.digits
  if 0 ≤ decimal.exponent then
    if decimal.digits = 0 then digits else digits ++ zeros decimal.exponent.toNat
  else
    let places := (-decimal.exponent).toNat
    if places < digits.length then
      let whole := digits.length - places
      String.ofList (digits.toList.take whole) ++ "." ++ String.ofList (digits.toList.drop whole)
    else "0." ++ zeros (places - digits.length) ++ digits

/-- A double as messages show it: positional, with the fewest digits that read back. -/
def plain (x : Float) : String :=
  if x.isNaN then "NaN"
  else
    let sign := if isNegative x then "-" else ""
    if x.isInf then sign ++ "inf" else sign ++ (shortest x).positional

/-- The positions of the leading digit between which data documents write a double without an
exponent: from five zeros after the point to sixteen digits before it. -/
structure PointRange where
  most : Int
  least : Int

def PointRange.data : PointRange := ⟨16, -5⟩

/-- A decimal as data documents write it: a whole number keeps one zero after its point, and an
exponent follows a single leading digit. -/
def Scaled.data (decimal : Scaled) : String :=
  let digits := toString decimal.digits
  let point := (digits.length : Int) + decimal.exponent
  if decimal.digits = 0 then "0.0"
  else if PointRange.data.least < point && point ≤ PointRange.data.most then
    if 0 ≤ decimal.exponent then decimal.positional ++ ".0" else decimal.positional
  else
    let fraction := String.ofList (digits.toList.drop 1)
    let mantissa := String.ofList (digits.toList.take 1) ++
      (if fraction.isEmpty then "" else "." ++ fraction)
    mantissa ++ "e" ++ toString (point - 1)

/-- A finite double as data documents write it. -/
def data (x : Float) : String :=
  (if isNegative x then "-" else "") ++ (shortest x).data

end NetworkTwin.Decimal
