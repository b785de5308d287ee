import NetworkTwin.Instant.Calendar
import NetworkTwin.Text.Numeral

/-!
Instants of universal time and their written form. The form is that of RFC 3339 with the fewest
fraction digits out of 0, 3, 6 and 9 that lose nothing.
-/

namespace NetworkTwin

/-- A point in time: whole seconds since 1970-01-01T00:00:00Z and nanoseconds after them. Within
a leap second the nanoseconds go on counting beyond a second. -/
structure Instant where
  seconds : Int
  nanoseconds : Nat
deriving DecidableEq, Repr

namespace Instant

def epoch : Instant := ⟨0, 0⟩

/-- A year in four digits; the sign is written only for years that four digits do not hold. -/
def yearText (year : Int) : String :=
  if 0 ≤ year && year ≤ 9999 then Text.paddedDecimal 4 year.toNat
  else (if year < 0 then "-" else "+") ++ Text.paddedDecimal 4 year.natAbs

/-- The fraction of a second with its point, or nothing for a whole second. -/
def fractionText (nanoseconds : Nat) : String :=
  if nanoseconds = 0 then ""
  else if nanoseconds % 1000000 = 0 then "." ++ Text.paddedDecimal 3 (nanoseconds / 1000000)
  else if nanoseconds % 1000 = 0 then "." ++ Text.paddedDecimal 6 (nanoseconds / 1000)
  else "." ++ Text.paddedDecimal 9 nanoseconds

def localText (instant : Instant) : String :=
  let date := CivilDate.ofDays (instant.seconds.fdiv 86400)
  let secondOfDay := (instant.seconds.fmod 86400).toNat
  let leap := instant.nanoseconds / 1000000000
  let two := Text.paddedDecimal 2
  yearText date.year ++ "-" ++ two date.month ++ "-" ++ two date.day ++ "T" ++
    two (secondOfDay / 3600) ++ ":" ++ two (secondOfDay / 60 % 60) ++ ":" ++
    two (secondOfDay % 60 + leap) ++ fractionText (instant.nanoseconds % 1000000000)

/-- The form that documents hold, marked as universal time by a letter. -/
def render (instant : Instant) : String := instant.localText ++ "Z"

/-- The form that run identifiers are made from, marked by an offset of zero. -/
def renderOffset (instant : Instant) : String := instant.localText ++ "+00:00"

end Instant

end NetworkTwin
