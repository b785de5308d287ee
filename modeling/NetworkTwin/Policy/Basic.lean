import NetworkTwin.Text.Blank
import NetworkTwin.Text.LetterCase
import NetworkTwin.Text.Numeral

/-!
Firewall policies: ordered rules over node references, protocols and destination ports. A
reference is a node id, a tag, or the wildcard `any`.
-/

namespace NetworkTwin

inductive Action where
  | allow
  | deny
deriving DecidableEq, Repr

/-- A restriction to destination ports: one port, or a token that is read as a port or a range
when it is needed. -/
inductive PortFilter where
  | number (port : UInt16)
  | range (token : String)
deriving DecidableEq, Repr

structure Rule where
  action : Action
  protocol : Option String
  source : String
  destination : String
  port : Option PortFilter
  comment : Option String
deriving DecidableEq, Repr

/-- A line of a policy text that is no rule, with its number counted from one. -/
structure SkippedLine where
  line : Nat
  text : String
deriving DecidableEq, Repr

/-- Rules in the order in which they are tried, and the lines that were passed over. -/
structure Policy where
  rules : List Rule
  skipped : List SkippedLine
deriving DecidableEq, Repr

inductive PortFlaw where
  | start
  | finish
  | form
deriving DecidableEq, Repr

def PortFlaw.reason : PortFlaw → String
  | .start => "range start is not a port number"
  | .finish => "range end is not a port number"
  | .form => "expected a port number or 'start-end'"

inductive PolicyError where
  | notARule
  | invalidPort (token : String) (flaw : PortFlaw)
  | invalid (errors : List String)
deriving DecidableEq, Repr

def PolicyError.message : PolicyError → String
  | .notARule =>
      "parse error at line 1: " ++
        "expected '<allow|deny> [protocol] from <ref> to <ref> [port <port>]'"
  | .invalidPort token flaw => "invalid port '" ++ token ++ "': " ++ flaw.reason
  | .invalid errors => "validation error: " ++ Text.joinWith "; " errors

def Action.name : Action → String
  | .allow => "allow"
  | .deny => "deny"

def Action.ofName? : String → Option Action
  | "allow" => some .allow
  | "deny" => some .deny
  | _ => none

/-- Whether a reference or a protocol is the wildcard, in any case of its letters. -/
def isAny (word : String) : Bool := Text.sameIgnoringCase word "any"

namespace PortFilter

/-- A port number in decimal: one plus sign and zeros may lead. -/
def port? (text : List Char) : Option UInt16 :=
  (Text.naturalBelow? UInt16.size text).map UInt16.ofNat

/-- The filter that a token stands for: its number if it is one, and else the token itself. -/
def ofToken (token : String) : PortFilter :=
  match port? token.toList with
  | some port => .number port
  | none => .range token

/-- The least and the greatest port of a filter. Exactly one hyphen makes a range; each side may
have blanks around it. -/
def bounds : PortFilter → Except PolicyError (UInt16 × UInt16)
  | .number port => .ok (port, port)
  | .range token =>
      match Text.splitAt '-' token.toList with
      | [first, last] =>
          match port? (Text.trim first), port? (Text.trim last) with
          | some low, some high => .ok (low, high)
          | none, _ => .error (.invalidPort token .start)
          | some _, none => .error (.invalidPort token .finish)
      | _ =>
          match port? (Text.trim token.toList) with
          | some port => .ok (port, port)
          | none => .error (.invalidPort token .form)

/-- Whether a port passes the filter. A filter without bounds lets nothing pass. -/
def admits (filter : PortFilter) (port : UInt16) : Bool :=
  match filter.bounds with
  | .ok (low, high) => low ≤ port && port ≤ high
  | .error _ => false

def render : PortFilter → String
  | .number port => toString port.toNat
  | .range token => token

end PortFilter

namespace Rule

def plain (action : Action) (source destination : String) : Rule :=
  { action := action, protocol := none, source := source, destination := destination,
    port := none, comment := none }

def withProtocol (rule : Rule) (protocol : String) : Rule :=
  { rule with protocol := some (Text.toLower protocol) }

def withPort (rule : Rule) (port : PortFilter) : Rule := { rule with port := some port }

def coversAllProtocols (rule : Rule) : Bool :=
  match rule.protocol with
  | none => true
  | some protocol => isAny protocol

/-- Whether the rule is written so that it matches everything. -/
def isCatchAll (rule : Rule) : Bool :=
  isAny rule.source && isAny rule.destination && rule.coversAllProtocols && rule.port.isNone

def render (rule : Rule) : String :=
  rule.action.name ++
    (match rule.protocol with
      | some protocol => " " ++ protocol
      | none => "") ++
    " from " ++ rule.source ++ " to " ++ rule.destination ++
    (match rule.port with
      | some port => " port " ++ port.render
      | none => "")

end Rule

namespace Policy

def empty : Policy := ⟨[], []⟩

def add (policy : Policy) (rule : Rule) : Policy :=
  { policy with rules := policy.rules ++ [rule] }

def isEmpty (policy : Policy) : Bool := policy.rules.isEmpty

def hasCatchAll (policy : Policy) : Bool := policy.rules.any Rule.isCatchAll

def render (policy : Policy) : String := Text.joinWith "\n" (policy.rules.map Rule.render)

end Policy

end NetworkTwin
