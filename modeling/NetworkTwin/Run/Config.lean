import NetworkTwin.Document.Decode
import NetworkTwin.Policy.Parser
import NetworkTwin.Topology.Basic

/-!
The settings of a run, and the policy that a firewall enforces under them.
-/

namespace NetworkTwin

/-- The settings of a run: the simulated time that a packet spends at a node, in milliseconds, the
policy text of firewalls that carry none, and the node whose blast radius is wanted. -/
structure Config where
  timeStep : UInt64
  defaultPolicy : String
  blastNode : Option String
deriving DecidableEq, Repr

namespace Config

def default : Config := ⟨10, "deny any from Any to Any", none⟩

instance : Inhabited Config := ⟨default⟩

def withTimeStep (config : Config) (timeStep : UInt64) : Config :=
  { config with timeStep := timeStep }

def withDefaultPolicy (config : Config) (policy : String) : Config :=
  { config with defaultPolicy := policy }

def withBlastNode (config : Config) (node : String) : Config :=
  { config with blastNode := some node }

/-- The settings that a document holds. What it leaves out stays as it is by default. -/
def decode (tree : Tree) : Decoded Config := do
  let fields ← tree.asRecord ["timeStepMs", "defaultPolicy", "blastRadiusNode"]
  return {
    timeStep := (← fields.optional "timeStepMs" Tree.asUInt64).getD default.timeStep
    defaultPolicy := (← fields.optional "defaultPolicy" Tree.asText).getD default.defaultPolicy
    blastNode := ← fields.optional "blastRadiusNode" Tree.asText }

end Config

/-- The text of a firewall's own policy. An empty text counts as none. -/
def Node.ownPolicyText? (firewall : Node) : Option String :=
  (firewall.propertyText? "policy").filter fun text => !text.isEmpty

/-- The policy that a firewall enforces: its own, or that of the settings. -/
def Config.policyOf (config : Config) (firewall : Node) : Policy :=
  Policy.parse (firewall.ownPolicyText?.getD config.defaultPolicy)

end NetworkTwin
