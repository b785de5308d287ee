import NetworkTwin.Proofs.Run.Reports

/-!
The result of a run as a whole. What a journal is headed with is never written over, so a run that
can start ends in one value made of the settings, the scenario and the topology after the faults. A
run that cannot start ends in a value made of the topology alone.
-/

namespace NetworkTwin

namespace Journal

/-- What a journal is headed with: the run, its scenario, and the time of its start. -/
def heading (journal : Journal) : String × String × Instant :=
  (journal.run, journal.scenarioId, journal.startedAt)

@[simp] theorem heading_log (journal : Journal) (event : Event) :
    (journal.log event).heading = journal.heading := rfl

@[simp] theorem heading_report (journal : Journal) (observation : Observation) :
    (journal.report observation).heading = journal.heading := rfl

@[simp] theorem heading_count (journal : Journal) (change : Counters → Counters) :
    (journal.count change).heading = journal.heading := rfl

theorem heading_foldl {α : Type} (enter : Journal → α → Journal)
    (each : ∀ journal item, (enter journal item).heading = journal.heading) (journal : Journal)
    (items : List α) : (items.foldl enter journal).heading = journal.heading := by
  induction items generalizing journal with
  | nil => rfl
  | cons item rest induction => rw [List.foldl_cons, induction, each]

theorem heading_policy_of (config : Config) (journal : Journal) (firewall : Node) :
    (journal.policyOf config firewall).2.heading = journal.heading := by
  unfold policyOf
  split <;> rfl

theorem heading_resolve_flow (config : Config) (graph : Graph) (journal : Journal) (flow : Flow) :
    (journal.resolveFlow config graph flow).2.heading = journal.heading := by
  unfold resolveFlow
  cases graph.findPath flow.source flow.destination with
  | none => rfl
  | some route =>
      dsimp only
      cases graph.firewallOn? route.path with
      | none => rfl
      | some firewall =>
          have asked := heading_policy_of config journal firewall
          dsimp only
          split <;> exact asked

theorem heading_conclude (step : UInt64) (flow : Flow) (journal : Journal)
    (outcome : FlowOutcome) : (journal.conclude step flow outcome).heading = journal.heading := by
  cases outcome with
  | unreachable => simp only [conclude, heading_report, heading_count, heading_log]
  | blocked firewall decision => simp only [conclude, heading_report, heading_log, heading_count]
  | delivered route evaluated =>
      have sent (started : Journal) :
          (route.path.foldl (sendPacket step flow) started).heading = started.heading :=
        heading_foldl (sendPacket step flow) (fun _ _ => rfl) started route.path
      simp only [conclude, heading_log, heading_count, sent]
      cases evaluated <;> rfl

theorem heading_send_flow (config : Config) (graph : Graph) (journal : Journal) (flow : Flow) :
    (journal.sendFlow config graph flow).heading = journal.heading := by
  unfold sendFlow
  dsimp only
  rw [heading_conclude, heading_resolve_flow, heading_log]

theorem heading_play (config : Config) (warnings : List Issue) (faulted : Graph)
    (scenario : Scenario) (journal : Journal) :
    (config.play warnings faulted scenario journal).heading = journal.heading := by
  unfold Config.play
  dsimp only
  rw [heading_foldl report heading_report, heading_foldl (tryAttack faulted) fun _ _ => rfl,
    heading_foldl (sendFlow config faulted) (heading_send_flow config faulted),
    heading_foldl _ fun _ _ => heading_log _ _, heading_foldl _ fun _ _ => heading_report _ _]

theorem finish_eq {journal : Journal} {run scenarioId : String} {now : Instant}
    {events : List Event} {counters : Counters} {findings : List Finding}
    (heading : journal.heading = (run, scenarioId, now)) (told : journal.events = events)
    (counted : journal.counters = counters) (found : journal.findings = findings)
    (finishedAt : Instant) (status : RunStatus) (graph : Graph) (blastRadius : Option BlastReport) :
    journal.finish finishedAt status graph blastRadius =
      { id := run
        scenarioId := scenarioId
        status := status
        startedAt := now
        finishedAt := some finishedAt
        events := events
        metrics := {
          counters with
          reachability := graph.reachability
          latencies := graph.latencies }
        findings := findings
        blastRadius := blastRadius } := by
  subst told counted found
  cases heading
  rfl

end Journal

/-- What a run that cannot start comes to. -/
def StructureReport.failure (report : StructureReport) (span : Span) (graph : Graph)
    (scenarioId : String) : RunResult where
  id := runId scenarioId span.startedAt
  scenarioId := scenarioId
  status := .failed
  startedAt := span.startedAt
  finishedAt := some span.finishedAt
  events := [report.failureEvent]
  metrics := { Counters.zero with reachability := graph.reachability, latencies := graph.latencies }
  findings := []
  blastRadius := none

namespace Config

/-- What a run that can start comes to. -/
def completion (config : Config) (span : Span) (graph : Graph) (scenario : Scenario) :
    RunResult :=
  let faulted := graph.injectAll scenario.faults
  { id := runId scenario.id span.startedAt
    scenarioId := scenario.id
    status := .completed
    startedAt := span.startedAt
    finishedAt := some span.finishedAt
    events := scenario.faults.map Fault.event ++
      (config.blocks faulted 0 scenario.flows).flatten ++ scenario.attacks.map AttackEvent.event
    metrics := {
      (scenario.flows.map (config.outcome faulted)).foldl Counters.enter .zero with
      reachability := faulted.reachability
      latencies := faulted.latencies }
    findings := recordAll (runId scenario.id span.startedAt) span.startedAt
      (config.observations graph scenario)
    blastRadius := config.blastReport? faulted }

variable (config : Config) (span : Span) {graph : Graph} (scenario : Scenario)

theorem simulate_eq_completion (valid : graph.validate.valid = true) :
    config.simulate span graph scenario = config.completion span graph scenario := by
  have distinct := Graph.nodup_inject_all (Graph.nodup_of_valid valid) scenario.faults
  have records := config.play_records graph.validate.warnings distinct scenario
    (Journal.records_start config _ scenario.id span.startedAt)
  have notes := config.play_notes span scenario valid
  have heading := Journal.heading_play config graph.validate.warnings
    (graph.injectAll scenario.faults) scenario (.start scenario.id span.startedAt)
  exact (if_pos valid).trans
    (Journal.finish_eq heading records.events records.counters notes.findings _ _ _ _)

theorem simulate_eq_failure (invalid : graph.validate.valid = false) :
    config.simulate span graph scenario = graph.validate.failure span graph scenario.id := by
  unfold simulate
  dsimp only
  rw [invalid]
  rfl

/-- What holds of whatever runs come to, failed or completed, holds of all their results. -/
theorem forall_simulate {holds : RunResult → Prop}
    (failure : holds (graph.validate.failure span graph scenario.id))
    (completion : holds (config.completion span graph scenario)) :
    holds (config.simulate span graph scenario) := by
  cases valid : graph.validate.valid with
  | false =>
      rw [config.simulate_eq_failure span scenario valid]
      exact failure
  | true =>
      rw [config.simulate_eq_completion span scenario valid]
      exact completion

end Config

end NetworkTwin
