import NetworkTwin.Topology.Schema

/-!
Scenarios: flows that are sent, faults that are injected before, and attacks that are tried.
-/

namespace NetworkTwin

structure Flow where
  id : String
  source : String
  destination : String
  protocol : String
  port : Option UInt16
  rate : Float
  label : Option String

inductive FaultKind where
  | linkDown
  | linkDegraded
  | nodeDown
deriving DecidableEq, Repr

structure FaultParams where
  latency : Option Float
  loss : Option Float

structure Fault where
  id : String
  kind : FaultKind
  target : String
  startTime : UInt64
  duration : Option UInt64
  params : Option FaultParams

inductive AttackKind where
  | credentialReuse
  | phishingCompromise
  | lateralMovement
  | dataExfilAttempt
  | privilegeEscalation
  | reconScan
deriving DecidableEq, Repr

structure AttackEvent where
  id : String
  kind : AttackKind
  source : String
  target : Option String
  timestamp : UInt64
  metadata : Option (Dictionary Value)

structure Scenario where
  id : String
  name : String
  description : Option String
  topologyId : String
  flows : List Flow
  faults : List Fault
  attacks : List AttackEvent
  duration : UInt64
  options : Option (Dictionary Value)

namespace FaultKind

def all : List FaultKind := [.linkDown, .linkDegraded, .nodeDown]

def name : FaultKind → String
  | .linkDown => "link-down"
  | .linkDegraded => "link-degraded"
  | .nodeDown => "node-down"

def ofName? (word : String) : Option FaultKind := all.find? fun kind => kind.name == word

end FaultKind

namespace AttackKind

def all : List AttackKind :=
  [.credentialReuse, .phishingCompromise, .lateralMovement, .dataExfilAttempt,
    .privilegeEscalation, .reconScan]

def name : AttackKind → String
  | .credentialReuse => "credential-reuse"
  | .phishingCompromise => "phishing-compromise"
  | .lateralMovement => "lateral-movement"
  | .dataExfilAttempt => "data-exfil-attempt"
  | .privilegeEscalation => "privilege-escalation"
  | .reconScan => "recon-scan"

def ofName? (word : String) : Option AttackKind := all.find? fun kind => kind.name == word

end AttackKind

def Flow.plain (id source destination protocol : String) : Flow :=
  { id := id, source := source, destination := destination, protocol := protocol, port := none,
    rate := 1.0, label := none }

def Flow.withPort (flow : Flow) (port : UInt16) : Flow := { flow with port := some port }

def Fault.plain (id : String) (kind : FaultKind) (target : String) : Fault :=
  { id := id, kind := kind, target := target, startTime := 0, duration := none, params := none }

def AttackEvent.plain (id : String) (kind : AttackKind) (source : String) : AttackEvent :=
  { id := id, kind := kind, source := source, target := none, timestamp := 0, metadata := none }

def AttackEvent.withTarget (attack : AttackEvent) (target : String) : AttackEvent :=
  { attack with target := some target }

def Fault.checkSchema (fault : Fault) : Except SchemaViolation Unit := do
  ensure (!fault.target.isEmpty) (.emptyTarget fault.id)
  match fault.params.bind (·.loss) with
  | some loss => ensure (isPercentage loss) (.faultLoss fault.id loss)
  | none => return ()

def Flow.checkSchema (flow : Flow) : Except SchemaViolation Unit :=
  ensure (!flow.source.isEmpty && !flow.destination.isEmpty) (.emptyEndpoint flow.id)

namespace Scenario

def defaultDuration : UInt64 := 60000

def plain (id name topologyId : String) : Scenario :=
  { id := id, name := name, description := none, topologyId := topologyId, flows := [],
    faults := [], attacks := [], duration := defaultDuration, options := none }

def addFlow (scenario : Scenario) (flow : Flow) : Scenario :=
  { scenario with flows := scenario.flows ++ [flow] }

def addFault (scenario : Scenario) (fault : Fault) : Scenario :=
  { scenario with faults := scenario.faults ++ [fault] }

def addAttack (scenario : Scenario) (attack : AttackEvent) : Scenario :=
  { scenario with attacks := scenario.attacks ++ [attack] }

def checkSchema (scenario : Scenario) : Except SchemaViolation Unit := do
  ensure (!scenario.id.isEmpty) .emptyScenarioId
  scenario.flows.forM Flow.checkSchema
  scenario.faults.forM Fault.checkSchema

end Scenario

end NetworkTwin
