import NetworkTwin.Topology.Basic

/-!
The schema of a topology. Nodes are looked at before links, each in document order, and the first
violation is reported.
-/

namespace NetworkTwin

def firstRepeated? (seen : List String) : List String → Option String
  | [] => none
  | text :: rest => if seen.contains text then some text else firstRepeated? (text :: seen) rest

def ensure (condition : Bool) (violation : SchemaViolation) : Except SchemaViolation Unit :=
  if condition then .ok () else .error violation

def Node.checkSchema (node : Node) : Except SchemaViolation Unit := do
  ensure (!node.id.isEmpty) .emptyNodeId
  match firstRepeated? [] (node.interfaces.map (·.id)) with
  | some interface => throw (.repeatedInterface node.id interface)
  | none => return ()

/-- A link needs an id, a loss in percent, and quantities from zero up. -/
def Link.checkSchema (link : Link) : Except SchemaViolation Unit := do
  ensure (!link.id.isEmpty) .emptyLinkId
  ensure (isPercentage link.loss) (.linkLoss link.id link.loss)
  ensure (isQuantity link.latency) (.linkQuantity link.id .latency link.latency)
  ensure (isQuantity link.bandwidth) (.linkQuantity link.id .bandwidth link.bandwidth)
  ensure (isQuantity link.jitter) (.linkQuantity link.id .jitter link.jitter)

def Graph.checkSchema (graph : Graph) : Except SchemaViolation Unit := do
  graph.nodes.forM Node.checkSchema
  graph.links.forM Link.checkSchema

end NetworkTwin
