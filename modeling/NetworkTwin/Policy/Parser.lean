import NetworkTwin.Policy.Basic
import NetworkTwin.Text.Pattern

/-!
Policy texts. A line is a rule if it starts the way the pattern of a rule wants it: with an action,
perhaps a protocol, `from` and a reference, `to` and a reference, and perhaps `port` and a port
token. Whatever follows is passed over. Keywords may be in any case. Blank lines and lines that start
with `#` say nothing; every other line that is no rule is set aside with its number.
-/

namespace NetworkTwin

/-- The parts of a line that a rule is made from. -/
inductive RulePart where
  | action
  | protocol
  | source
  | destination
  | port
deriving DecidableEq, Repr

namespace Rule

open Text (Pattern Captures)

def actionKeywords : List String := ["allow", "deny"]

def protocolKeywords : List String := ["tcp", "udp", "icmp", "dns", "any"]

def blanks : Pattern RulePart := .stretch Text.isBlank

def token (part : RulePart) : Pattern RulePart := .capture part (.stretch Text.isWordCharacter)

def protocolPattern : Pattern RulePart := .capture .protocol (.oneOf protocolKeywords) ++ blanks

def endsPattern : Pattern RulePart :=
  .oneOf ["from"] ++ blanks ++ token .source ++ blanks ++
    .oneOf ["to"] ++ blanks ++ token .destination

def portPattern : Pattern RulePart := blanks ++ .oneOf ["port"] ++ blanks ++ token .port

def pattern : Pattern RulePart :=
  .capture .action (.oneOf actionKeywords) ++ blanks ++ .optional protocolPattern ++ endsPattern ++
    .optional portPattern

/-- The rule that the captured parts of a line make up. -/
def ofParts (parts : Captures RulePart) : Rule :=
  let part? (label : RulePart) : Option String := (parts.lookup label).map String.ofList
  let part (label : RulePart) : String := (part? label).getD ""
  let action := if Text.sameIgnoringCase (part .action) "allow" then Action.allow else .deny
  let rule := Rule.plain action (part .source) (part .destination)
  let rule := match part? .protocol with
    | some protocol => rule.withProtocol protocol
    | none => rule
  match part? .port with
  | some port => rule.withPort (PortFilter.ofToken port)
  | none => rule

def parse (line : String) : Except PolicyError Rule :=
  match pattern.captures? (Text.trim line.toList) with
  | some parts => .ok (ofParts parts)
  | none => .error .notARule

end Rule

namespace Policy

inductive Entry where
  | nothing
  | rule (rule : Rule)
  | skipped (line : SkippedLine)

def entryOf (number : Nat) (line : List Char) : Entry :=
  let text := Text.trim line
  match text with
  | [] => .nothing
  | '#' :: _ => .nothing
  | _ =>
      match Rule.parse (String.ofList text) with
      | .ok parsed => .rule parsed
      | .error _ => .skipped ⟨number, String.ofList text⟩

def entriesFrom : Nat → List (List Char) → List Entry
  | _, [] => []
  | number, line :: rest => entryOf number line :: entriesFrom (number + 1) rest

def Entry.rule? : Entry → Option Rule
  | .rule parsed => some parsed
  | _ => none

def Entry.skipped? : Entry → Option SkippedLine
  | .skipped aside => some aside
  | _ => none

def parse (text : String) : Policy :=
  let entries := entriesFrom 1 (Text.lines text.toList)
  ⟨entries.filterMap Entry.rule?, entries.filterMap Entry.skipped?⟩

end Policy

end NetworkTwin
