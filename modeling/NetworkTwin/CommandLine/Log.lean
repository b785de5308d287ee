import NetworkTwin.Text.Blank
import NetworkTwin.Text.LetterCase
import NetworkTwin.Text.Numeral

/-!
The log of the command line, and filters on it. A filter is a list of directives, each a level, a
target, or both; the directive with the longest target that fits decides.
-/

namespace NetworkTwin

inductive LogLevel where
  | error
  | warn
  | info
  | debug
  | trace
deriving DecidableEq, Repr

namespace LogLevel

def rank : LogLevel → Nat
  | .error => 1
  | .warn => 2
  | .info => 3
  | .debug => 4
  | .trace => 5

def name : LogLevel → String
  | .error => "ERROR"
  | .warn => "WARN"
  | .info => "INFO"
  | .debug => "DEBUG"
  | .trace => "TRACE"

def all : List LogLevel := [.error, .warn, .info, .debug, .trace]

end LogLevel

/-- How much of the log is let through: nothing, or all that is as important as a level. -/
structure LogThreshold where
  rank : Nat
deriving DecidableEq, Repr

namespace LogThreshold

def ofLevel (level : LogLevel) : LogThreshold := ⟨level.rank⟩

/-- The threshold that a word means: the name of a level in any case of its letters, `off`, or a
number from zero to five. -/
def read? (word : List Char) : Option LogThreshold :=
  match Text.naturalBelow? 6 word with
  | some rank => some ⟨rank⟩
  | none =>
      let lower := Text.lowerAsciiText (String.ofList word)
      if lower = "off" then some ⟨0⟩
      else (LogLevel.all.find? fun level => Text.lowerAsciiText level.name = lower).map ofLevel

def admits (threshold : LogThreshold) (level : LogLevel) : Bool := level.rank ≤ threshold.rank

end LogThreshold

/-- One directive of a filter. An empty target fits all. -/
structure LogDirective where
  target : List Char
  threshold : LogThreshold
deriving DecidableEq, Repr

namespace LogDirective

def isTargetPart (c : Char) : Bool := c.isAlphanum || c == '_' || c == ':' || c == '-'

/-- The directive of a text. A target without a level lets everything through. -/
def read? (text : List Char) : Option LogDirective :=
  match LogThreshold.read? text with
  | some threshold => some ⟨[], threshold⟩
  | none =>
      match Text.splitAt '=' text with
      | [target] =>
          if target.all isTargetPart then some ⟨target, .ofLevel .trace⟩ else none
      | [target, level] =>
          if target.isEmpty || !target.all isTargetPart then none
          else if level.isEmpty then some ⟨target, .ofLevel .trace⟩
          else (LogThreshold.read? level).map fun threshold => ⟨target, threshold⟩
      | _ => none

end LogDirective

structure LogFilter where
  directives : List LogDirective
deriving DecidableEq, Repr

namespace LogFilter

def ofLevel (level : LogLevel) : LogFilter := ⟨[⟨[], .ofLevel level⟩]⟩

/-- The filter of a text: directives between commas. Without any, only errors are let through. -/
def read? (text : String) : Option LogFilter := do
  let parts := (Text.splitAt ',' text.toList).filter fun part => !part.isEmpty
  let directives ← parts.mapM LogDirective.read?
  some (if directives.isEmpty then ofLevel .error else ⟨directives⟩)

/-- The directive that decides on a target: of those that fit, the one with the longest target, and
of equals the last. -/
def deciding? (filter : LogFilter) (target : String) : Option LogDirective :=
  (filter.directives.filter fun directive => directive.target.isPrefixOf target.toList).foldl
    (fun best directive =>
      match best with
      | some longest =>
          if longest.target.length ≤ directive.target.length then some directive else best
      | none => some directive) none

def admits (filter : LogFilter) (target : String) (level : LogLevel) : Bool :=
  match filter.deciding? target with
  | some directive => directive.threshold.admits level
  | none => false

end LogFilter

end NetworkTwin
