import NetworkTwin.Instant.Reader
import NetworkTwin.Policy.Wire
import NetworkTwin.Run.Attack
import NetworkTwin.Run.Result
import NetworkTwin.Topology.Structure

/-!
Results of runs and of analyses as documents. A latency that is not finite is written as `null`,
and `null` is read as infinity.
-/

namespace NetworkTwin

def Instant.decode (tree : Tree) : Decoded Instant := do
  match Instant.read? (← tree.asText) with
  | some instant => return instant
  | none => throw (.expected "instant")

def Instant.encode (instant : Instant) : Value := .text instant.render

def EventKind.decode : Tree → Decoded EventKind := Tree.choiceOf EventKind.ofName?

def EventKind.encode (kind : EventKind) : Value := .text kind.name

def RunStatus.decode : Tree → Decoded RunStatus := Tree.choiceOf RunStatus.ofName?

def RunStatus.encode (status : RunStatus) : Value := .text status.name

def Event.decode (tree : Tree) : Decoded Event := do
  let fields ← tree.asRecord
    ["timestamp", "type", "nodeId", "linkId", "flowId", "message", "metadata"]
  return {
    timestamp := ← fields.required "timestamp" Tree.asUInt64
    kind := ← fields.required "type" EventKind.decode
    node := ← fields.optional "nodeId" Tree.asText
    link := ← fields.optional "linkId" Tree.asText
    flow := ← fields.optional "flowId" Tree.asText
    message := ← fields.required "message" Tree.asText
    metadata := ← fields.optional "metadata" Tree.asAttributes }

def Event.encode (event : Event) : Value :=
  Value.record [
    ("timestamp", some (.natural event.timestamp.toNat)),
    ("type", some event.kind.encode),
    ("nodeId", event.node.map .text),
    ("linkId", event.link.map .text),
    ("flowId", event.flow.map .text),
    ("message", some (.text event.message)),
    ("metadata", event.metadata.map Value.ofAttributes)]

def Matrix.encode {β : Type} (entry : β → Value) (table : Matrix β) : Value :=
  .object (table.entries.map fun row =>
    (row.1, .object (row.2.entries.map fun cell => (cell.1, entry cell.2))))

def Matrix.decode {β : Type} (entry : Tree → Decoded β) (tree : Tree) : Decoded (Matrix β) :=
  tree.dictionaryOf fun row => row.dictionaryOf entry

/-- A latency; none is infinite. -/
def decodeLatency (tree : Tree) : Decoded Float := do
  return (← tree.optionOf Tree.asReal).getD (1.0 / 0.0)

def Metrics.decode (tree : Tree) : Decoded Metrics := do
  let fields ← tree.asRecord ["reachabilityMatrix", "latencyMatrix", "packetsProcessed",
    "packetsDropped", "policiesEvaluated", "policiesBlocked"]
  return {
    reachability := ← fields.required "reachabilityMatrix" (Matrix.decode Tree.asBool)
    latencies := ← fields.required "latencyMatrix" (Matrix.decode decodeLatency)
    packetsProcessed := ← fields.required "packetsProcessed" Tree.asUInt64
    packetsDropped := ← fields.required "packetsDropped" Tree.asUInt64
    policiesEvaluated := ← fields.required "policiesEvaluated" Tree.asUInt64
    policiesBlocked := ← fields.required "policiesBlocked" Tree.asUInt64 }

def Metrics.encode (metrics : Metrics) : Value :=
  Value.record [
    ("reachabilityMatrix", some (metrics.reachability.encode .bool)),
    ("latencyMatrix", some (metrics.latencies.encode Value.real)),
    ("packetsProcessed", some (.natural metrics.packetsProcessed.toNat)),
    ("packetsDropped", some (.natural metrics.packetsDropped.toNat)),
    ("policiesEvaluated", some (.natural metrics.policiesEvaluated.toNat)),
    ("policiesBlocked", some (.natural metrics.policiesBlocked.toNat))]

def Finding.decode (tree : Tree) : Decoded Finding := do
  let fields ← tree.asRecord ["id", "runId", "severity", "title", "description",
    "affectedNodeIds", "affectedLinkIds", "evidence", "remediation", "category", "createdAt"]
  return {
    id := ← fields.required "id" Tree.asText
    runId := ← fields.optional "runId" Tree.asText
    severity := ← fields.required "severity" Severity.decode
    title := ← fields.required "title" Tree.asText
    description := ← fields.required "description" Tree.asText
    nodes := ← fields.withDefault "affectedNodeIds" [] (Tree.listOf Tree.asText)
    links := ← fields.withDefault "affectedLinkIds" [] (Tree.listOf Tree.asText)
    evidence := ← fields.optional "evidence" Tree.asValue
    remediation := ← fields.optional "remediation" Tree.asText
    category := ← fields.optional "category" Tree.asText
    createdAt := ← fields.required "createdAt" Instant.decode }

def Observation.fields (observation : Observation) : List (String × Option Value) := [
  ("severity", some observation.severity.encode),
  ("title", some (.text observation.title)),
  ("description", some (.text observation.description)),
  ("affectedNodeIds", some (Value.texts observation.nodes)),
  ("affectedLinkIds", some (Value.texts observation.links)),
  ("evidence", observation.evidence),
  ("remediation", observation.remediation.map .text),
  ("category", observation.category.map .text)]

def Observation.encode (observation : Observation) : Value := Value.record observation.fields

def Finding.encode (finding : Finding) : Value :=
  Value.record (
    [("id", some (.text finding.id)), ("runId", finding.runId.map .text)] ++
    finding.toObservation.fields ++
    [("createdAt", some finding.createdAt.encode)])

def BlastReport.decode (tree : Tree) : Decoded BlastReport := do
  let fields ← tree.asRecord
    ["compromisedNodeId", "affectedNodeIds", "affectedLinkIds", "impactScore"]
  return {
    compromised := ← fields.required "compromisedNodeId" Tree.asText
    affectedNodes := ← fields.required "affectedNodeIds" (Tree.listOf Tree.asText)
    affectedLinks := ← fields.required "affectedLinkIds" (Tree.listOf Tree.asText)
    score := ← fields.required "impactScore" Tree.asUInt64 }

def BlastReport.encode (report : BlastReport) : Value :=
  Value.record [
    ("compromisedNodeId", some (.text report.compromised)),
    ("affectedNodeIds", some (Value.texts report.affectedNodes)),
    ("affectedLinkIds", some (Value.texts report.affectedLinks)),
    ("impactScore", some (.natural report.score.toNat))]

def RunResult.decode (tree : Tree) : Decoded RunResult := do
  let fields ← tree.asRecord ["id", "scenarioId", "status", "startedAt", "finishedAt", "events",
    "metrics", "findings", "blastRadius"]
  return {
    id := ← fields.required "id" Tree.asText
    scenarioId := ← fields.required "scenarioId" Tree.asText
    status := ← fields.required "status" RunStatus.decode
    startedAt := ← fields.required "startedAt" Instant.decode
    finishedAt := ← fields.optional "finishedAt" Instant.decode
    events := ← fields.required "events" (Tree.listOf Event.decode)
    metrics := ← fields.required "metrics" Metrics.decode
    findings := ← fields.required "findings" (Tree.listOf Finding.decode)
    blastRadius := ← fields.optional "blastRadius" BlastReport.decode }

def RunResult.encode (result : RunResult) : Value :=
  Value.record [
    ("id", some (.text result.id)),
    ("scenarioId", some (.text result.scenarioId)),
    ("status", some result.status.encode),
    ("startedAt", some result.startedAt.encode),
    ("finishedAt", result.finishedAt.map Instant.encode),
    ("events", some (.list (result.events.map Event.encode))),
    ("metrics", some result.metrics.encode),
    ("findings", some (.list (result.findings.map Finding.encode))),
    ("blastRadius", result.blastRadius.map BlastReport.encode)]

def Verdict.decode (tree : Tree) : Decoded Verdict := do
  let fields ← tree.asRecord ["blocked", "blockedBy"]
  return {
    blocked := ← fields.required "blocked" Tree.asBool
    blockedBy := ← fields.optional "blockedBy" Tree.asText }

def Verdict.encode (verdict : Verdict) : Value :=
  Value.record [
    ("blocked", some (.bool verdict.blocked)),
    ("blockedBy", verdict.blockedBy.map .text)]

def Route.decode (tree : Tree) : Decoded Route := do
  let fields ← tree.asRecord ["path", "links"]
  return {
    path := ← fields.required "path" (Tree.listOf Tree.asText)
    links := ← fields.required "links" (Tree.listOf Tree.asText) }

def Route.encode (route : Route) : Value :=
  Value.record [
    ("path", some (Value.texts route.path)),
    ("links", some (Value.texts route.links))]

def Issue.decode (tree : Tree) : Decoded Issue := do
  let fields ← tree.asRecord ["message", "nodeId", "linkId"]
  return {
    message := ← fields.required "message" Tree.asText
    nodeId := ← fields.optional "nodeId" Tree.asText
    linkId := ← fields.optional "linkId" Tree.asText }

def Issue.encode (issue : Issue) : Value :=
  Value.record [
    ("message", some (.text issue.message)),
    ("nodeId", issue.nodeId.map .text),
    ("linkId", issue.linkId.map .text)]

def StructureReport.decode (tree : Tree) : Decoded StructureReport := do
  let fields ← tree.asRecord ["valid", "errors", "warnings"]
  return {
    valid := ← fields.required "valid" Tree.asBool
    errors := ← fields.required "errors" (Tree.listOf Issue.decode)
    warnings := ← fields.required "warnings" (Tree.listOf Issue.decode) }

def StructureReport.encode (report : StructureReport) : Value :=
  Value.record [
    ("valid", some (.bool report.valid)),
    ("errors", some (.list (report.errors.map Issue.encode))),
    ("warnings", some (.list (report.warnings.map Issue.encode)))]

end NetworkTwin
