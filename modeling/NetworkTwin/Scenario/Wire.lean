import NetworkTwin.Scenario.Basic
import NetworkTwin.Topology.Wire

/-!
Scenarios as documents.
-/

namespace NetworkTwin

def FaultKind.decode : Tree → Decoded FaultKind := Tree.choiceOf FaultKind.ofName?

def FaultKind.encode (kind : FaultKind) : Value := .text kind.name

def AttackKind.decode : Tree → Decoded AttackKind := Tree.choiceOf AttackKind.ofName?

def AttackKind.encode (kind : AttackKind) : Value := .text kind.name

def Flow.shape : Shape := .flat ["id", "from", "to", "protocol", "port", "rate", "label"]

def Flow.decode (tree : Tree) : Decoded Flow := do
  let fields ← tree.asRecord shape.names
  return {
    id := ← fields.required "id" Tree.asText
    source := ← fields.required "from" Tree.asText
    destination := ← fields.required "to" Tree.asText
    protocol := ← fields.required "protocol" Tree.asText
    port := ← fields.optional "port" Tree.asUInt16
    rate := ← fields.withDefault "rate" 1.0 Tree.asReal
    label := ← fields.optional "label" Tree.asText }

def Flow.encode (flow : Flow) : Value :=
  Value.record [
    ("id", some (.text flow.id)),
    ("from", some (.text flow.source)),
    ("to", some (.text flow.destination)),
    ("protocol", some (.text flow.protocol)),
    ("port", flow.port.map fun port => .natural port.toNat),
    ("rate", some (Value.real flow.rate)),
    ("label", flow.label.map .text)]

def FaultParams.shape : Shape := .flat ["latency", "loss"]

def FaultParams.decode (tree : Tree) : Decoded FaultParams := do
  let fields ← tree.asRecord shape.names
  return {
    latency := ← fields.optional "latency" Tree.asReal
    loss := ← fields.optional "loss" Tree.asReal }

def FaultParams.encode (params : FaultParams) : Value :=
  Value.record [
    ("latency", params.latency.map Value.real),
    ("loss", params.loss.map Value.real)]

def Fault.shape : Shape :=
  .record [
    ("id", .whole), ("type", .whole), ("targetId", .whole), ("startTime", .whole),
    ("duration", .whole), ("params", FaultParams.shape)]

def Fault.decode (tree : Tree) : Decoded Fault := do
  let fields ← tree.asRecord shape.names
  return {
    id := ← fields.required "id" Tree.asText
    kind := ← fields.required "type" FaultKind.decode
    target := ← fields.required "targetId" Tree.asText
    startTime := ← fields.withDefault "startTime" 0 Tree.asUInt64
    duration := ← fields.optional "duration" Tree.asUInt64
    params := ← fields.optional "params" FaultParams.decode }

def Fault.encode (fault : Fault) : Value :=
  Value.record [
    ("id", some (.text fault.id)),
    ("type", some fault.kind.encode),
    ("targetId", some (.text fault.target)),
    ("startTime", some (.natural fault.startTime.toNat)),
    ("duration", fault.duration.map fun duration => .natural duration.toNat),
    ("params", fault.params.map FaultParams.encode)]

def AttackEvent.shape : Shape :=
  .flat ["id", "type", "sourceNodeId", "targetNodeId", "timestamp", "metadata"]

def AttackEvent.decode (tree : Tree) : Decoded AttackEvent := do
  let fields ← tree.asRecord shape.names
  return {
    id := ← fields.required "id" Tree.asText
    kind := ← fields.required "type" AttackKind.decode
    source := ← fields.required "sourceNodeId" Tree.asText
    target := ← fields.optional "targetNodeId" Tree.asText
    timestamp := ← fields.required "timestamp" Tree.asUInt64
    metadata := ← fields.optional "metadata" Tree.asAttributes }

def AttackEvent.encode (attack : AttackEvent) : Value :=
  Value.record [
    ("id", some (.text attack.id)),
    ("type", some attack.kind.encode),
    ("sourceNodeId", some (.text attack.source)),
    ("targetNodeId", attack.target.map .text),
    ("timestamp", some (.natural attack.timestamp.toNat)),
    ("metadata", attack.metadata.map Value.ofAttributes)]

def Scenario.shape : Shape :=
  .record [
    ("id", .whole), ("name", .whole), ("description", .whole), ("topologyId", .whole),
    ("flows", .list Flow.shape), ("faults", .list Fault.shape),
    ("attackEvents", .list AttackEvent.shape), ("duration", .whole), ("options", .whole)]

def Scenario.decode (tree : Tree) : Decoded Scenario := do
  let fields ← tree.asRecord shape.names
  return {
    id := ← fields.required "id" Tree.asText
    name := ← fields.required "name" Tree.asText
    description := ← fields.optional "description" Tree.asText
    topologyId := ← fields.required "topologyId" Tree.asText
    flows := ← fields.withDefault "flows" [] (Tree.listOf Flow.decode)
    faults := ← fields.withDefault "faults" [] (Tree.listOf Fault.decode)
    attacks := ← fields.withDefault "attackEvents" [] (Tree.listOf AttackEvent.decode)
    duration := ← fields.withDefault "duration" Scenario.defaultDuration Tree.asUInt64
    options := ← fields.optional "options" Tree.asAttributes }

def Scenario.encode (scenario : Scenario) : Value :=
  Value.record [
    ("id", some (.text scenario.id)),
    ("name", some (.text scenario.name)),
    ("description", scenario.description.map .text),
    ("topologyId", some (.text scenario.topologyId)),
    ("flows", some (.list (scenario.flows.map Flow.encode))),
    ("faults", some (.list (scenario.faults.map Fault.encode))),
    ("attackEvents", some (.list (scenario.attacks.map AttackEvent.encode))),
    ("duration", some (.natural scenario.duration.toNat)),
    ("options", scenario.options.map Value.ofAttributes)]

end NetworkTwin
