import NetworkTwin.Fingerprint
import NetworkTwin.Policy.Wire
import NetworkTwin.Run.Config
import NetworkTwin.Run.Result

/-!
The journal of a run: all that a run has come to so far. Events and findings are only ever added at
the end, the clock only goes forward, and the policy of a firewall is read once, when the firewall
is first met.
-/

namespace NetworkTwin

def runKey (scenarioId : String) (now : Instant) : String :=
  scenarioId ++ "@" ++ now.renderOffset

def runId (scenarioId : String) (now : Instant) : String :=
  Fingerprint.ofKey (runKey scenarioId now)

/-- The text that the identifier of a finding is made from: the run, the place in the list, and
what is observed. -/
def findingKey (run : String) (place : Nat) (observation : Observation) : String :=
  run ++ "#" ++ toString place ++ "#" ++ observation.title ++ "#" ++ observation.description

def Observation.record (observation : Observation) (run : String) (now : Instant) (place : Nat) :
    Finding :=
  { observation with
    id := Fingerprint.ofKey (findingKey run place observation)
    runId := none
    createdAt := now }

/-- The simulated time after a step. It stands still at the greatest time that 64 bits hold. -/
def advance (step clock : UInt64) : UInt64 :=
  UInt64.ofNat (min (clock.toNat + step.toNat) (UInt64.size - 1))

/-- What a run has come to so far. The policies are those that have been read, by the id of the
firewall. -/
structure Journal where
  run : String
  scenarioId : String
  startedAt : Instant
  clock : UInt64
  events : List Event
  findings : List Finding
  counters : Counters
  policies : Dictionary Policy

namespace Journal

def start (scenarioId : String) (now : Instant) : Journal :=
  { run := runId scenarioId now
    scenarioId := scenarioId
    startedAt := now
    clock := 0
    events := []
    findings := []
    counters := .zero
    policies := .empty }

def log (journal : Journal) (event : Event) : Journal :=
  { journal with events := journal.events ++ [event] }

def report (journal : Journal) (observation : Observation) : Journal :=
  { journal with
    findings := journal.findings ++
      [observation.record journal.run journal.startedAt journal.findings.length] }

def count (journal : Journal) (change : Counters → Counters) : Journal :=
  { journal with counters := change journal.counters }

def pass (journal : Journal) (step : UInt64) : Journal :=
  { journal with clock := advance step journal.clock }

/-- The policy that a firewall enforces, and the journal that knows it. -/
def policyOf (journal : Journal) (config : Config) (firewall : Node) : Policy × Journal :=
  match journal.policies.get? firewall.id with
  | some policy => (policy, journal)
  | none =>
      let policy := config.policyOf firewall
      (policy, { journal with policies := journal.policies.insert firewall.id policy })

def finish (journal : Journal) (finishedAt : Instant) (status : RunStatus) (graph : Graph)
    (blastRadius : Option BlastReport) : RunResult :=
  { id := journal.run
    scenarioId := journal.scenarioId
    status := status
    startedAt := journal.startedAt
    finishedAt := some finishedAt
    events := journal.events
    metrics := {
      journal.counters with
      reachability := graph.reachability
      latencies := graph.latencies }
    findings := journal.findings
    blastRadius := blastRadius }

end Journal

end NetworkTwin
