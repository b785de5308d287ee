import NetworkTwin.Document.Decode
import NetworkTwin.Topology.Basic

/-!
Topologies as documents. Lists, properties and numbers have defaults when they are read, and are
always written; texts that are absent are left out.
-/

namespace NetworkTwin

def Severity.decode : Tree → Decoded Severity := Tree.choiceOf Severity.ofName?

def Severity.encode (severity : Severity) : Value := .text severity.name

def NodeKind.decode : Tree → Decoded NodeKind := Tree.choiceOf NodeKind.ofName?

def NodeKind.encode (kind : NodeKind) : Value := .text kind.name

def LinkKind.decode : Tree → Decoded LinkKind := Tree.choiceOf LinkKind.ofName?

def LinkKind.encode (kind : LinkKind) : Value := .text kind.name

def Value.ofAttributes (attributes : Dictionary Value) : Value := .object attributes.entries

def Interface.shape : Shape := .flat ["id", "name", "ipAddress", "subnet", "macAddress", "enabled"]

def Interface.decode (tree : Tree) : Decoded Interface := do
  let fields ← tree.asRecord shape.names
  return {
    id := ← fields.required "id" Tree.asText
    name := ← fields.required "name" Tree.asText
    ipAddress := ← fields.optional "ipAddress" Tree.asText
    subnet := ← fields.optional "subnet" Tree.asText
    macAddress := ← fields.optional "macAddress" Tree.asText
    enabled := ← fields.withDefault "enabled" true Tree.asBool }

def Interface.encode (interface : Interface) : Value :=
  Value.record [
    ("id", some (.text interface.id)),
    ("name", some (.text interface.name)),
    ("ipAddress", interface.ipAddress.map .text),
    ("subnet", interface.subnet.map .text),
    ("macAddress", interface.macAddress.map .text),
    ("enabled", some (.bool interface.enabled))]

def Position.shape : Shape := .flat ["x", "y"]

def Position.decode (tree : Tree) : Decoded Position := do
  let fields ← tree.asRecord shape.names
  return {
    x := ← fields.required "x" Tree.asReal
    y := ← fields.required "y" Tree.asReal }

def Position.encode (position : Position) : Value :=
  Value.record [
    ("x", some (Value.real position.x)),
    ("y", some (Value.real position.y))]

def Node.shape : Shape :=
  .record [
    ("id", .whole), ("type", .whole), ("label", .whole), ("role", .whole), ("os", .whole),
    ("version", .whole), ("tags", .whole), ("riskCriticality", .whole),
    ("interfaces", .list Interface.shape), ("properties", .whole), ("position", Position.shape)]

def Node.decode (tree : Tree) : Decoded Node := do
  let fields ← tree.asRecord shape.names
  return {
    id := ← fields.required "id" Tree.asText
    kind := ← fields.required "type" NodeKind.decode
    label := ← fields.required "label" Tree.asText
    role := ← fields.optional "role" Tree.asText
    os := ← fields.optional "os" Tree.asText
    version := ← fields.optional "version" Tree.asText
    tags := ← fields.withDefault "tags" [] (Tree.listOf Tree.asText)
    criticality := ← fields.withDefault "riskCriticality" .medium Severity.decode
    interfaces := ← fields.withDefault "interfaces" [] (Tree.listOf Interface.decode)
    properties := ← fields.withDefault "properties" .empty Tree.asAttributes
    position := ← fields.withDefault "position" ⟨0.0, 0.0⟩ Position.decode }

def Node.encode (node : Node) : Value :=
  Value.record [
    ("id", some (.text node.id)),
    ("type", some node.kind.encode),
    ("label", some (.text node.label)),
    ("role", node.role.map .text),
    ("os", node.os.map .text),
    ("version", node.version.map .text),
    ("tags", some (Value.texts node.tags)),
    ("riskCriticality", some node.criticality.encode),
    ("interfaces", some (.list (node.interfaces.map Interface.encode))),
    ("properties", some (Value.ofAttributes node.properties)),
    ("position", some node.position.encode)]

def Link.shape : Shape :=
  .flat ["id", "source", "target", "type", "bandwidth", "latency", "loss", "jitter", "canFail",
    "failed", "label"]

def Link.decode (tree : Tree) : Decoded Link := do
  let fields ← tree.asRecord shape.names
  return {
    id := ← fields.required "id" Tree.asText
    source := ← fields.required "source" Tree.asText
    target := ← fields.required "target" Tree.asText
    kind := ← fields.required "type" LinkKind.decode
    bandwidth := ← fields.withDefault "bandwidth" 1000.0 Tree.asReal
    latency := ← fields.withDefault "latency" 0.0 Tree.asReal
    loss := ← fields.withDefault "loss" 0.0 Tree.asReal
    jitter := ← fields.withDefault "jitter" 0.0 Tree.asReal
    canFail := ← fields.withDefault "canFail" false Tree.asBool
    failed := ← fields.withDefault "failed" false Tree.asBool
    label := ← fields.optional "label" Tree.asText }

def Link.encode (link : Link) : Value :=
  Value.record [
    ("id", some (.text link.id)),
    ("source", some (.text link.source)),
    ("target", some (.text link.target)),
    ("type", some link.kind.encode),
    ("bandwidth", some (Value.real link.bandwidth)),
    ("latency", some (Value.real link.latency)),
    ("loss", some (Value.real link.loss)),
    ("jitter", some (Value.real link.jitter)),
    ("canFail", some (.bool link.canFail)),
    ("failed", some (.bool link.failed)),
    ("label", link.label.map .text)]

def GraphMetadata.shape : Shape := .flat ["name", "description", "createdAt", "updatedAt"]

def GraphMetadata.decode (tree : Tree) : Decoded GraphMetadata := do
  let fields ← tree.asRecord shape.names
  return {
    name := ← fields.optional "name" Tree.asText
    description := ← fields.optional "description" Tree.asText
    createdAt := ← fields.optional "createdAt" Tree.asText
    updatedAt := ← fields.optional "updatedAt" Tree.asText }

def GraphMetadata.encode (metadata : GraphMetadata) : Value :=
  Value.record [
    ("name", metadata.name.map .text),
    ("description", metadata.description.map .text),
    ("createdAt", metadata.createdAt.map .text),
    ("updatedAt", metadata.updatedAt.map .text)]

def Graph.shape : Shape :=
  .record [
    ("nodes", .list Node.shape), ("links", .list Link.shape), ("metadata", GraphMetadata.shape)]

def Graph.decode (tree : Tree) : Decoded Graph := do
  let fields ← tree.asRecord shape.names
  return {
    nodes := ← fields.required "nodes" (Tree.listOf Node.decode)
    links := ← fields.required "links" (Tree.listOf Link.decode)
    metadata := ← fields.optional "metadata" GraphMetadata.decode }

def Graph.encode (graph : Graph) : Value :=
  Value.record [
    ("nodes", some (.list (graph.nodes.map Node.encode))),
    ("links", some (.list (graph.links.map Link.encode))),
    ("metadata", graph.metadata.map GraphMetadata.encode)]

end NetworkTwin
