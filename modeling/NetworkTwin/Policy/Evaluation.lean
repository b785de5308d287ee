import NetworkTwin.Dictionary
import NetworkTwin.Policy.Basic

/-!
Deciding flows: the first rule that matches decides, and a flow that no rule matches is denied.
-/

namespace NetworkTwin

abbrev TagMap := Dictionary (List String)

structure Query where
  source : String
  destination : String
  protocol : Option String
  port : Option UInt16
deriving DecidableEq, Repr

structure Decision where
  allowed : Bool
  matchedRule : Option Rule
  reason : String
deriving DecidableEq, Repr

def Decision.defaultReason : String := "No matching policy rule (default deny)"

def Decision.defaultDeny : Decision := ⟨false, none, defaultReason⟩

def Decision.byRule (rule : Rule) : Decision :=
  { allowed := rule.action == .allow,
    matchedRule := some rule,
    reason := "Matched rule: " ++ rule.action.name ++ " from " ++ rule.source ++ " to " ++
      rule.destination }

/-- Whether a reference means a node: as the wildcard, as its id, or as one of its tags. -/
def TagMap.refersTo (tags : TagMap) (reference node : String) : Bool :=
  isAny reference || reference == node || ((tags.get? node).getD []).contains reference

def Rule.coversProtocol (rule : Rule) (protocol : Option String) : Bool :=
  rule.coversAllProtocols ||
    match protocol, rule.protocol with
    | some used, some wanted => Text.sameIgnoringCase used wanted
    | _, _ => false

def Rule.coversPort (rule : Rule) (port : Option UInt16) : Bool :=
  match rule.port, port with
  | none, _ => true
  | some _, none => false
  | some filter, some port => filter.admits port

def Rule.matches (rule : Rule) (tags : TagMap) (query : Query) : Bool :=
  tags.refersTo rule.source query.source && tags.refersTo rule.destination query.destination &&
    rule.coversProtocol query.protocol && rule.coversPort query.port

def Policy.evaluate (policy : Policy) (tags : TagMap) (query : Query) : Decision :=
  match policy.rules.find? fun rule => rule.matches tags query with
  | some rule => .byRule rule
  | none => .defaultDeny

end NetworkTwin
