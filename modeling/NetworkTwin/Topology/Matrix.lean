import NetworkTwin.Topology.Routing

/-!
All-pairs tables: which node reaches which, and how long that takes. Each row comes from one full
search.
-/

namespace NetworkTwin

abbrev Matrix (β : Type) := Dictionary (Dictionary β)

namespace Graph

/-- A table whose rows and columns are the declared nodes. An entry is computed from the full
search of its row and the node of its column. -/
def tabulate {β : Type} (graph : Graph) (entry : String → Search → String → β) : Matrix β :=
  Dictionary.ofList (graph.nodes.map fun source =>
    let search := graph.explore source.id none
    (source.id, Dictionary.ofList (graph.nodes.map fun target =>
      (target.id, entry source.id search target.id))))

def reachability (graph : Graph) : Matrix Bool :=
  graph.tabulate fun source search target => source == target || search.hasSettled target

/-- The latency of the route from each node to each other, infinite where there is none. -/
def latencies (graph : Graph) : Matrix Float :=
  graph.tabulate fun source search target =>
    if source = target then 0.0
    else match search.route? target with
      | some route => graph.pathLatency route.links
      | none => 1.0 / 0.0

end Graph

end NetworkTwin
