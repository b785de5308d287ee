import NetworkTwin.Topology.Basic

/-!
The blast radius of a compromised node: the node, its direct neighbours, and a score. Failed links
count, because what is cabled together can still be reached.
-/

namespace NetworkTwin

structure BlastReport where
  compromised : String
  affectedNodes : List String
  affectedLinks : List String
  score : UInt64
deriving DecidableEq, Repr

structure UnknownNode where
  id : String
deriving DecidableEq, Repr

def UnknownNode.message (unknown : UnknownNode) : String := "unknown node: " ++ unknown.id

namespace Blast

def perNode : Nat := 10

def perStranded : Nat := 20

def weight : Severity → Nat
  | .critical => 50
  | .high => 30
  | .medium => 10
  | .low => 0
  | .info => 0

def total (scores : List Nat) : Nat := scores.foldr (· + ·) 0

end Blast

namespace Graph

/-- The node and its direct neighbours, each once, in the order of the links. -/
def closedNeighbourhood (graph : Graph) (node : String) : List String :=
  (node :: (graph.linksTouching node).map fun link => link.otherEnd node).eraseDups

/-- Whether a node has a link to the compromised node and no other link. -/
def isStranded (graph : Graph) (compromised : String) (node : Node) : Bool :=
  let links := graph.linksTouching node.id
  node.id != compromised && !links.isEmpty && links.all fun link => link.touches compromised

def impact (graph : Graph) (compromised : String) (affected : List String) : Nat :=
  Blast.perNode * affected.length +
    Blast.total ((affected.filterMap graph.node?).map fun node => Blast.weight node.criticality) +
    Blast.perStranded * (graph.nodes.filter (graph.isStranded compromised)).length

def blastRadius (graph : Graph) (node : String) : Except UnknownNode BlastReport :=
  if graph.declares node then
    let affected := graph.closedNeighbourhood node
    .ok {
      compromised := node
      affectedNodes := affected
      affectedLinks := (graph.linksTouching node).map (·.id)
      score := UInt64.ofNat (graph.impact node affected) }
  else .error ⟨node⟩

end Graph

end NetworkTwin
