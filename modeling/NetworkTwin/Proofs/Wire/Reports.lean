import NetworkTwin.Proofs.Wire.Policies
import NetworkTwin.Proofs.Wire.Scenarios
import NetworkTwin.Run.Wire

/-!
Reports of runs and of analyses survive being written: events, metrics with their two tables,
findings with their free-form evidence, routes, verdicts, and the reports of the validators. An
infinite latency is written as nothing, and nothing else is.
-/

namespace NetworkTwin

theorem EventKind.of_name_name (kind : EventKind) : ofName? kind.name = some kind := by
  cases kind <;> decide +kernel

def EventKind.codec : Codec EventKind := ⟨decode, encode⟩

theorem EventKind.faithful : EventKind.codec.Faithful := .choice of_name_name

def Event.codec : Codec Event := ⟨decode, encode⟩

def Event.layout : List (Slot Event) := [
  .required "timestamp" .uint64 (·.timestamp),
  .required "type" EventKind.codec (·.kind),
  .optional "nodeId" .text (·.node),
  .optional "linkId" .text (·.link),
  .optional "flowId" .text (·.flow),
  .required "message" .text (·.message),
  .optional "metadata" .attributes (·.metadata)]

theorem Event.laid_out : LaidOut Event.codec Event.layout where
  distinct := by decide
  written _ := rfl
  read {_ record} := by
    cases record
    simp only [Event.codec, Event.decode, bind_eq_ok_iff, pure_eq_ok_iff, Event.mk.injEq,
      existsAndEq, and_true]
    exact Iff.rfl

theorem Event.faithful : Event.codec.Faithful :=
  laid_out.faithful fun _ =>
    ⟨.required .uint64, .required EventKind.faithful, .optional .text, .optional .text,
      .optional .text, .required .text, .optional .attributes⟩

def Codec.latency : Codec Float := ⟨decodeLatency, Value.real⟩

theorem decode_latency_to_tree {value : Value} {latency : Float}
    (read : decodeLatency value.toTree = .ok latency) :
    value = .null ∧ latency = 1.0 / 0.0 ∨ value.toTree.asReal = .ok latency := by
  obtain ⟨option, decoded, same⟩ := bind_eq_ok_iff.1 read
  cases pure_eq_ok_iff.1 same
  by_cases absent : value = .null
  · subst absent
    cases decoded
    exact Or.inl ⟨rfl, rfl⟩
  · rw [Slot.option_of_present absent] at decoded
    cases number : value.toTree.asReal with
    | error mismatch =>
        rw [number] at decoded
        cases decoded
    | ok number =>
        rw [number] at decoded
        cases decoded
        exact Or.inr rfl

theorem Value.real_infinity : Value.real (1.0 / 0.0) = .null := if_neg (by decide +kernel)

theorem Codec.Keeps.latency {latency : Float}
    (kind : latency.isFinite = true ∨ latency = 1.0 / 0.0) : Codec.latency.Keeps latency := by
  rcases kind with finite | rfl
  · have written : Value.real latency = .number (.real latency) := if_pos finite
    refine ⟨(Keeps.real finite).inRange, ?_⟩
    change decodeLatency (Value.real latency).toTree = .ok latency
    rw [written]
    rfl
  · constructor
    · change (Value.real (1.0 / 0.0)).InRange
      rw [Value.real_infinity]
      trivial
    · change decodeLatency (Value.real (1.0 / 0.0)).toTree = _
      rw [Value.real_infinity]
      rfl

theorem Codec.Faithful.latency : latency.Faithful where
  keeps {value item} inRange read := by
    rcases decode_latency_to_tree read with ⟨_, infinite⟩ | decoded
    · exact .latency (Or.inr infinite)
    · refine .latency (Or.inl ?_)
      by_contra notFinite
      obtain rfl := Codec.Faithful.real.null inRange decoded (if_neg notFinite)
      cases decoded
  null {value item} inRange read written := by
    rcases decode_latency_to_tree read with ⟨rfl, _⟩ | decoded
    · rfl
    · exact Codec.Faithful.real.null inRange decoded written

def Metrics.codec : Codec Metrics := ⟨decode, encode⟩

def Metrics.layout : List (Slot Metrics) := [
  .required "reachabilityMatrix" (.dictionary (.dictionary .bool)) (·.reachability),
  .required "latencyMatrix" (.dictionary (.dictionary .latency)) (·.latencies),
  .required "packetsProcessed" .uint64 (·.packetsProcessed),
  .required "packetsDropped" .uint64 (·.packetsDropped),
  .required "policiesEvaluated" .uint64 (·.policiesEvaluated),
  .required "policiesBlocked" .uint64 (·.policiesBlocked)]

theorem Metrics.laid_out : LaidOut Metrics.codec Metrics.layout where
  distinct := by decide
  written _ := rfl
  read {_ record} := by
    rcases record with ⟨⟨_, _, _, _⟩, _, _⟩
    simp only [Metrics.codec, Metrics.decode, bind_eq_ok_iff, pure_eq_ok_iff, Metrics.mk.injEq,
      Counters.mk.injEq, existsAndEq, and_true]
    exact Iff.rfl

theorem Metrics.faithful : Metrics.codec.Faithful :=
  laid_out.faithful fun _ =>
    ⟨.required (.dictionary (.dictionary .bool)), .required (.dictionary (.dictionary .latency)),
      .required .uint64, .required .uint64, .required .uint64, .required .uint64⟩

def BlastReport.codec : Codec BlastReport := ⟨decode, encode⟩

def BlastReport.layout : List (Slot BlastReport) := [
  .required "compromisedNodeId" .text (·.compromised),
  .required "affectedNodeIds" (.list .text) (·.affectedNodes),
  .required "affectedLinkIds" (.list .text) (·.affectedLinks),
  .required "impactScore" .uint64 (·.score)]

theorem BlastReport.laid_out : LaidOut BlastReport.codec BlastReport.layout where
  distinct := by decide
  written _ := rfl
  read {_ record} := by
    cases record
    simp only [BlastReport.codec, BlastReport.decode, bind_eq_ok_iff, pure_eq_ok_iff,
      BlastReport.mk.injEq, existsAndEq, and_true]
    exact Iff.rfl

theorem BlastReport.faithful : BlastReport.codec.Faithful :=
  laid_out.faithful fun _ =>
    ⟨.required .text, .required (.list .text), .required (.list .text), .required .uint64⟩

def Verdict.codec : Codec Verdict := ⟨decode, encode⟩

def Verdict.layout : List (Slot Verdict) := [
  .required "blocked" .bool (·.blocked),
  .optional "blockedBy" .text (·.blockedBy)]

theorem Verdict.laid_out : LaidOut Verdict.codec Verdict.layout where
  distinct := by decide
  written _ := rfl
  read {_ record} := by
    cases record
    simp only [Verdict.codec, Verdict.decode, bind_eq_ok_iff, pure_eq_ok_iff, Verdict.mk.injEq,
      existsAndEq, and_true]
    exact Iff.rfl

theorem Verdict.faithful : Verdict.codec.Faithful :=
  laid_out.faithful fun _ =>
    ⟨.required .bool, .optional .text⟩

def Route.codec : Codec Route := ⟨decode, encode⟩

def Route.layout : List (Slot Route) := [
  .required "path" (.list .text) (·.path),
  .required "links" (.list .text) (·.links)]

theorem Route.laid_out : LaidOut Route.codec Route.layout where
  distinct := by decide
  written _ := rfl
  read {_ record} := by
    cases record
    simp only [Route.codec, Route.decode, bind_eq_ok_iff, pure_eq_ok_iff, Route.mk.injEq,
      existsAndEq, and_true]
    exact Iff.rfl

theorem Route.faithful : Route.codec.Faithful :=
  laid_out.faithful fun _ =>
    ⟨.required (.list .text), .required (.list .text)⟩

def Issue.codec : Codec Issue := ⟨decode, encode⟩

def Issue.layout : List (Slot Issue) := [
  .required "message" .text (·.message),
  .optional "nodeId" .text (·.nodeId),
  .optional "linkId" .text (·.linkId)]

theorem Issue.laid_out : LaidOut Issue.codec Issue.layout where
  distinct := by decide
  written _ := rfl
  read {_ record} := by
    cases record
    simp only [Issue.codec, Issue.decode, bind_eq_ok_iff, pure_eq_ok_iff, Issue.mk.injEq,
      existsAndEq, and_true]
    exact Iff.rfl

theorem Issue.faithful : Issue.codec.Faithful :=
  laid_out.faithful fun _ =>
    ⟨.required .text, .optional .text, .optional .text⟩

def StructureReport.codec : Codec StructureReport := ⟨decode, encode⟩

def StructureReport.layout : List (Slot StructureReport) := [
  .required "valid" .bool (·.valid),
  .required "errors" (.list Issue.codec) (·.errors),
  .required "warnings" (.list Issue.codec) (·.warnings)]

theorem StructureReport.laid_out : LaidOut StructureReport.codec StructureReport.layout where
  distinct := by decide
  written _ := rfl
  read {_ record} := by
    cases record
    simp only [StructureReport.codec, StructureReport.decode, bind_eq_ok_iff, pure_eq_ok_iff,
      StructureReport.mk.injEq, existsAndEq, and_true]
    exact Iff.rfl

theorem StructureReport.faithful : StructureReport.codec.Faithful :=
  laid_out.faithful fun _ =>
    ⟨.required .bool, .required (.list Issue.faithful), .required (.list Issue.faithful)⟩

def Instant.codec : Codec Instant := ⟨decode, encode⟩

theorem Instant.keeps {instant : Instant} (readsBack : read? instant.render = some instant) :
    codec.Keeps instant := by
  refine ⟨trivial, bind_eq_ok_iff.2 ⟨instant.render, rfl, ?_⟩⟩
  rw [readsBack]
  rfl

def Finding.codec : Codec Finding := ⟨decode, encode⟩

def Finding.layout : List (Slot Finding) := [
  .required "id" .text (·.id),
  .optional "runId" .text (·.runId),
  .required "severity" Severity.codec (·.severity),
  .required "title" .text (·.title),
  .required "description" .text (·.description),
  .withDefault "affectedNodeIds" (.list .text) [] (·.nodes),
  .withDefault "affectedLinkIds" (.list .text) [] (·.links),
  .optional "evidence" .value (·.evidence),
  .optional "remediation" .text (·.remediation),
  .optional "category" .text (·.category),
  .required "createdAt" Instant.codec (·.createdAt)]

theorem Finding.laid_out : LaidOut Finding.codec Finding.layout where
  distinct := by decide
  written finding := by rcases finding with ⟨⟨_, _, _, _, _, _ | _, _, _⟩, _, _, _⟩ <;> rfl
  read {_ record} := by
    rcases record with ⟨⟨_, _, _, _, _, _, _, _⟩, _, _, _⟩
    simp only [Finding.codec, Finding.decode, bind_eq_ok_iff, pure_eq_ok_iff, Finding.mk.injEq,
      Observation.mk.injEq, and_assoc, existsAndEq, and_true]
    exact Iff.rfl

theorem Finding.keeps_of_read {value : Value} {finding : Finding} (inRange : value.InRange)
    (read : Finding.decode value.toTree = .ok finding)
    (stamped : Instant.read? finding.createdAt.render = some finding.createdAt) :
    codec.Keeps finding :=
  laid_out.keeps_of_read inRange read
    ⟨.required .text, .optional .text, .required Severity.faithful, .required .text,
      .required .text, .withDefault (.list .text) .nil, .withDefault (.list .text) .nil,
      .optional .value, .optional .text, .optional .text,
      ⟨fun _ _ => .required (Instant.keeps stamped)⟩⟩

end NetworkTwin
