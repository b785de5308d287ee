import NetworkTwin.Finding
import NetworkTwin.Scenario.Basic
import NetworkTwin.Topology.Blast
import NetworkTwin.Topology.Matrix

/-!
What a run yields: events in order, metrics, findings in order, and perhaps a blast radius.
-/

namespace NetworkTwin

inductive EventKind where
  | flowStart
  | flowEnd
  | packetSent
  | packetReceived
  | packetDropped
  | faultInjected
  | faultResolved
  | policyBlock
  | attackEvent
deriving DecidableEq, Repr

/-- Something that happened at a time, in milliseconds of simulated time. -/
structure Event where
  timestamp : UInt64
  kind : EventKind
  node : Option String
  link : Option String
  flow : Option String
  message : String
  metadata : Option (Dictionary Value)

structure Counters where
  packetsProcessed : UInt64
  packetsDropped : UInt64
  policiesEvaluated : UInt64
  policiesBlocked : UInt64
deriving DecidableEq, Repr

structure Metrics extends Counters where
  reachability : Matrix Bool
  latencies : Matrix Float

inductive RunStatus where
  | running
  | completed
  | failed
deriving DecidableEq, Repr

/-- When a run starts and when it has finished, by the wall clock. -/
structure Span where
  startedAt : Instant
  finishedAt : Instant
deriving DecidableEq, Repr

structure RunResult where
  id : String
  scenarioId : String
  status : RunStatus
  startedAt : Instant
  finishedAt : Option Instant
  events : List Event
  metrics : Metrics
  findings : List Finding
  blastRadius : Option BlastReport

namespace EventKind

def all : List EventKind :=
  [.flowStart, .flowEnd, .packetSent, .packetReceived, .packetDropped, .faultInjected,
    .faultResolved, .policyBlock, .attackEvent]

def name : EventKind → String
  | .flowStart => "flow-start"
  | .flowEnd => "flow-end"
  | .packetSent => "packet-sent"
  | .packetReceived => "packet-received"
  | .packetDropped => "packet-dropped"
  | .faultInjected => "fault-injected"
  | .faultResolved => "fault-resolved"
  | .policyBlock => "policy-block"
  | .attackEvent => "attack-event"

def ofName? (word : String) : Option EventKind := all.find? fun kind => kind.name == word

end EventKind

namespace RunStatus

def name : RunStatus → String
  | .running => "running"
  | .completed => "completed"
  | .failed => "failed"

def ofName? (word : String) : Option RunStatus :=
  [running, completed, failed].find? fun status => status.name == word

end RunStatus

namespace Span

/-- A run that takes no time. -/
instance : Coe Instant Span := ⟨fun instant => ⟨instant, instant⟩⟩

def epoch : Span := ⟨.epoch, .epoch⟩

end Span

namespace Counters

def zero : Counters := ⟨0, 0, 0, 0⟩

def processPacket (counters : Counters) : Counters :=
  { counters with packetsProcessed := counters.packetsProcessed + 1 }

def dropPacket (counters : Counters) : Counters :=
  { counters with packetsDropped := counters.packetsDropped + 1 }

def evaluatePolicy (counters : Counters) : Counters :=
  { counters with policiesEvaluated := counters.policiesEvaluated + 1 }

def blockPolicy (counters : Counters) : Counters :=
  { counters with policiesBlocked := counters.policiesBlocked + 1 }

end Counters

def Event.plain (timestamp : UInt64) (kind : EventKind) (message : String) : Event :=
  { timestamp := timestamp, kind := kind, node := none, link := none, flow := none,
    message := message, metadata := none }

def Event.withNode (event : Event) (node : String) : Event := { event with node := some node }

def Event.withFlow (event : Event) (flow : String) : Event := { event with flow := some flow }

namespace RunResult

def isCompleted (result : RunResult) : Bool := result.status == .completed

def findingsAtLeast (result : RunResult) (severity : Severity) : List Finding :=
  result.findings.filter fun finding => finding.severity.atLeast severity

def countEvents (result : RunResult) (kind : EventKind) : Nat :=
  result.events.countP fun event => event.kind == kind

end RunResult

end NetworkTwin
