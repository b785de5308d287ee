import NetworkTwin.Scenario.Wire
import NetworkTwin.Finding
import NetworkTwin.Topology.Routing

/-!
Attacks. An attack is stopped if there is no route to its target, or if a firewall lies on the
route, whatever its policy. An attack without a target always succeeds.
-/

namespace NetworkTwin

/-- The outcome of an attack: whether it was stopped, and by what. -/
structure Verdict where
  blocked : Bool
  blockedBy : Option String
deriving DecidableEq, Repr

namespace Verdict

def isolation : String := "network-isolation"

def succeeded : Verdict := ⟨false, none⟩

def stoppedBy (obstacle : String) : Verdict := ⟨true, some obstacle⟩

def obstacle? (verdict : Verdict) : Option String :=
  if verdict.blocked then verdict.blockedBy else none

def evidence (verdict : Verdict) (attack : AttackEvent) : Value :=
  .object [
    ("event", attack.encode),
    ("blocked", .bool verdict.blocked),
    ("blockedBy", Value.ofOption (verdict.blockedBy.map .text))]

def observation (verdict : Verdict) (attack : AttackEvent) : Observation :=
  let (severity, description, remediation) := match verdict.obstacle? with
    | some obstacle =>
        (Severity.low, "Attack attempt from " ++ attack.source ++ " was blocked by " ++ obstacle,
          "No action needed - attack was blocked")
    | none =>
        (Severity.high,
          "Attack event " ++ attack.kind.name ++ " from " ++ attack.source ++ " was successful",
          "Implement network segmentation and monitoring")
  (Observation.plain severity ("Attack Event: " ++ attack.kind.name) description)
    |>.withNodes (attack.source :: attack.target.toList)
    |>.withCategory "security"
    |>.withEvidence (verdict.evidence attack)
    |>.withRemediation remediation

end Verdict

namespace Graph

def firewallOn? (graph : Graph) (path : List String) : Option Node :=
  graph.nodes.find? fun node => node.isFirewall && path.contains node.id

def resolveAttack (graph : Graph) (attack : AttackEvent) : Verdict :=
  match attack.target with
  | none => .succeeded
  | some target =>
      match graph.findPath attack.source target with
      | none => .stoppedBy Verdict.isolation
      | some route =>
          match graph.firewallOn? route.path with
          | some firewall => .stoppedBy firewall.id
          | none => .succeeded

end Graph

end NetworkTwin
