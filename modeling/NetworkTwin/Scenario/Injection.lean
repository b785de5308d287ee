import NetworkTwin.Scenario.Basic

/-!
Fault injection. Faults are applied one after the other; each changes links only. A fault whose
target does not exist changes nothing.
-/

namespace NetworkTwin

def Link.fail (link : Link) : Link := { link with failed := true }

/-- The link after a degradation: what it sets replaces what was there. -/
def Link.degrade (link : Link) (params : FaultParams) : Link :=
  { link with latency := params.latency.getD link.latency, loss := params.loss.getD link.loss }

namespace Graph

/-- The topology after one fault. A fault of a link hits the first link with the id, a fault of a
node every link that touches it. -/
def inject (graph : Graph) (fault : Fault) : Graph :=
  match fault.kind with
  | .linkDown => graph.updateLink fault.target Link.fail
  | .linkDegraded =>
      match fault.params with
      | some params => graph.updateLink fault.target fun link => link.degrade params
      | none => graph
  | .nodeDown =>
      { graph with links := graph.links.map fun link =>
          if link.touches fault.target then link.fail else link }

def injectAll (graph : Graph) (faults : List Fault) : Graph := faults.foldl inject graph

end Graph

end NetworkTwin
