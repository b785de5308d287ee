import NetworkTwin.Run.Traffic
import NetworkTwin.Scenario.Injection
import NetworkTwin.Topology.Exposure
import NetworkTwin.Topology.Structure

/-!
Runs. A run on a topology with structural errors fails and tells nothing but those errors. Any
other run is completed: the faults are injected, the flows are sent, the attacks are tried, and the
topology is looked through for exposures. The wall clock is read as a run starts and again as it
finishes; all but the second reading is stamped with the first.
-/

namespace NetworkTwin

def Issue.observation (issue : Issue) : Observation :=
  (Observation.plain .medium "Topology Warning" issue.message)
    |>.withNodes issue.nodeId.toList
    |>.withLinks issue.linkId.toList

def Fault.event (fault : Fault) : Event :=
  Event.plain fault.startTime .faultInjected
    ("Fault injected: " ++ fault.kind.name ++ " on " ++ fault.target)

def AttackEvent.event (attack : AttackEvent) : Event :=
  let message := "Attack event: " ++ attack.kind.name ++ " from " ++ attack.source
  { (Event.plain attack.timestamp .attackEvent message).withNode attack.source with
    metadata := attack.metadata }

def StructureReport.failureEvent (report : StructureReport) : Event :=
  Event.plain 0 .faultInjected ("Graph validation failed: " ++ report.summary)

def Journal.tryAttack (graph : Graph) (journal : Journal) (attack : AttackEvent) : Journal :=
  (journal.log attack.event).report ((graph.resolveAttack attack).observation attack)

namespace Config

/-- The blast radius that the settings ask for, if the node is declared. -/
def blastReport? (config : Config) (graph : Graph) : Option BlastReport :=
  config.blastNode.bind fun node => (graph.blastRadius node).toOption

/-- The journal of a run that can start: warnings, faults, flows, attacks, exposures. -/
def play (config : Config) (warnings : List Issue) (faulted : Graph) (scenario : Scenario)
    (journal : Journal) : Journal :=
  let warned := warnings.foldl (fun journal issue => journal.report issue.observation) journal
  let broken := scenario.faults.foldl (fun journal fault => journal.log fault.event) warned
  let sent := scenario.flows.foldl (Journal.sendFlow config faulted) broken
  let attacked := scenario.attacks.foldl (Journal.tryAttack faulted) sent
  faulted.exposures.foldl Journal.report attacked

def simulate (config : Config) (span : Span) (graph : Graph) (scenario : Scenario) : RunResult :=
  let report := graph.validate
  let journal := Journal.start scenario.id span.startedAt
  if report.valid then
    let faulted := graph.injectAll scenario.faults
    (config.play report.warnings faulted scenario journal).finish span.finishedAt .completed faulted
      (config.blastReport? faulted)
  else (journal.log report.failureEvent).finish span.finishedAt .failed graph none

end Config

end NetworkTwin
