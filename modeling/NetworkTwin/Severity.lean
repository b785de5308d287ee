import NetworkTwin.Text.LetterCase

/-!
Severities: their ranks and their names.
-/

namespace NetworkTwin

inductive Severity where
  | critical
  | high
  | medium
  | low
  | info
deriving DecidableEq, Repr, Inhabited

namespace Severity

def all : List Severity := [.critical, .high, .medium, .low, .info]

def rank : Severity → Nat
  | .critical => 4
  | .high => 3
  | .medium => 2
  | .low => 1
  | .info => 0

def atLeast (severity other : Severity) : Bool := other.rank ≤ severity.rank

def name : Severity → String
  | .critical => "critical"
  | .high => "high"
  | .medium => "medium"
  | .low => "low"
  | .info => "info"

def ofName? (word : String) : Option Severity := all.find? fun severity => severity.name == word

def read? (word : String) : Option Severity := ofName? (Text.lowerAsciiText word)

@[simp] theorem ofName?_name (severity : Severity) : ofName? severity.name = some severity := by
  cases severity <;> decide +kernel

end Severity

end NetworkTwin
