import NetworkTwin.Instant.Basic
import NetworkTwin.Text.Blank

/-!
Reading instants. Accepted is RFC 3339 with some slack: months, days and times of day may have one
digit, a blank may stand for the letter between date and time, blanks may surround most parts, the
offset may lack its colon or be the word UTC. A signed year may have any number of digits.
-/

namespace NetworkTwin.Instant

/-- Up to `most` digits, at least one. -/
def scanDigits (most : Nat) (text : List Char) : Option (Nat × List Char) :=
  let run := (text.take most).takeWhile Text.isDigit
  (Text.digits? 10 run).map fun value => (value, text.drop run.length)

def scanMark (mark : Char) (text : List Char) : Option (Unit × List Char) :=
  match Text.trimFront text with
  | c :: rest => if c = mark then some ((), rest) else none
  | [] => none

def scanPair (text : List Char) : Option (Nat × List Char) := scanDigits 2 (Text.trimFront text)

/-- A year, after blanks: four digits at most unless it has a sign. -/
def scanYear (text : List Char) : Option (Int × List Char) :=
  match Text.trimFront text with
  | '-' :: rest => (scanDigits rest.length rest).map fun (year, rest) => (-Int.ofNat year, rest)
  | '+' :: rest => (scanDigits rest.length rest).map fun (year, rest) => (Int.ofNat year, rest)
  | text => (scanDigits 4 text).map fun (year, rest) => (Int.ofNat year, rest)

def scanDate (text : List Char) : Option (CivilDate × List Char) := do
  let (year, text) ← scanYear text
  let (_, text) ← scanMark '-' text
  let (month, text) ← scanPair text
  let (_, text) ← scanMark '-' text
  let (day, text) ← scanPair text
  some (⟨year, month, day⟩, text)

def scanSeparator : List Char → Option (Unit × List Char)
  | c :: rest => if c = 't' || c = 'T' || c = ' ' then some ((), rest) else none
  | [] => none

/-- The nanoseconds of a fraction, none if there is no point. Digits after the ninth are dropped. -/
def scanFraction : List Char → Option (Nat × List Char)
  | '.' :: rest =>
      (scanDigits 9 rest).map fun (value, rest') =>
        (value * Nat.pow 10 (9 - (rest.length - rest'.length)), rest'.dropWhile Text.isDigit)
  | text => some (0, text)

/-- A time of day as the second of the day and the nanoseconds after it. The second numbered 60
is a leap second, counted as nanoseconds beyond the 59th. -/
def scanTime (text : List Char) : Option ((Nat × Nat) × List Char) := do
  let (hour, text) ← scanPair text
  let (_, text) ← scanMark ':' text
  let (minute, text) ← scanPair text
  let (_, text) ← scanMark ':' text
  let (second, text) ← scanPair text
  let (nanoseconds, text) ← scanFraction text
  if hour < 24 && minute < 60 && second ≤ 60 then
    let leap := second / 60
    some ((hour * 3600 + minute * 60 + (second - leap), nanoseconds + leap * 1000000000), text)
  else none

def scanTwoDigits : List Char → Option (Nat × List Char)
  | tens :: ones :: rest => (Text.digits? 10 [tens, ones]).map fun value => (value, rest)
  | _ => none

def scanOffset (text : List Char) : Option (Int × List Char) := do
  let (sign, text) ← match text with
    | '+' :: rest => some ((1 : Int), rest)
    | '-' :: rest => some (-1, rest)
    | '−' :: rest => some (-1, rest)
    | _ => none
  let (hours, text) ← scanTwoDigits text
  let (minutes, text) ← scanTwoDigits (text.dropWhile fun c => c == ':' || Text.isBlank c)
  if minutes < 60 && hours < 24 then
    some (sign * Int.ofNat (hours * 3600 + minutes * 60), text)
  else none

def scanZone (text : List Char) : Option (Int × List Char) :=
  match text with
  | [] => none
  | c :: rest =>
      if (text.take 3).map Char.toUpper == "UTC".toList then some (0, text.drop 3)
      else if c = 'Z' || c = 'z' then some (0, rest)
      else scanOffset text

def read? (text : String) : Option Instant := do
  let (date, text) ← scanDate text.toList
  let (_, text) ← scanSeparator text
  let ((second, nanoseconds), text) ← scanTime text
  let (offset, text) ← scanZone (Text.trimFront text)
  if !(Text.trimFront text).isEmpty || !date.isValid then none
  else
    let seconds := date.toDays * 86400 + Int.ofNat second - offset
    if isSupportedYear (CivilDate.ofDays (seconds.fdiv 86400)).year then
      some ⟨seconds, nanoseconds⟩
    else none

end NetworkTwin.Instant
