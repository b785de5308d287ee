import NetworkTwin.Proofs.Run.Chronicle

/-!
The findings of a run. What a run observes depends on the settings, the topology and the scenario: the
warnings about the topology, the flows that do not arrive, the attacks, and the exposures, in this
order. Each observation is recorded under its place in the list and the identifier of the run, and
nothing that has been recorded changes later on.
-/

namespace NetworkTwin

def recordAll (run : String) (now : Instant) (observations : List Observation) : List Finding :=
  observations.mapIdx fun place observation => observation.record run now place

theorem record_all_concat (run : String) (now : Instant) (observations : List Observation)
    (last : Observation) :
    recordAll run now (observations ++ [last]) =
      recordAll run now observations ++ [last.record run now observations.length] := by
  simp [recordAll, List.mapIdx_append]

theorem record_all_length (run : String) (now : Instant) (observations : List Observation) :
    (recordAll run now observations).length = observations.length :=
  List.length_mapIdx

theorem observed_record_all (run : String) (now : Instant) (observations : List Observation) :
    (recordAll run now observations).map Finding.toObservation = observations := by
  apply List.ext_getElem?
  intro place
  simp [recordAll, Observation.record, Function.comp_def]

def FlowOutcome.observation? (flow : Flow) : FlowOutcome → Option Observation
  | .unreachable => some flow.unreachable
  | .blocked firewall decision => some (flow.blocked firewall decision)
  | .delivered _ _ => none

namespace Journal

/-- The findings of a journal are those of the observations that have been made. -/
structure Notes (run : String) (now : Instant) (journal : Journal)
    (observations : List Observation) : Prop where
  ofRun : journal.run = run
  startedAt : journal.startedAt = now
  findings : journal.findings = recordAll run now observations

theorem notes_start (scenarioId : String) (now : Instant) :
    (start scenarioId now).Notes (runId scenarioId now) now [] :=
  ⟨rfl, rfl, rfl⟩

namespace Notes

variable {run : String} {now : Instant} {journal : Journal} {observations : List Observation}

theorem log (notes : journal.Notes run now observations) (event : Event) :
    (journal.log event).Notes run now observations :=
  ⟨notes.ofRun, notes.startedAt, notes.findings⟩

theorem count (notes : journal.Notes run now observations) (change : Counters → Counters) :
    (journal.count change).Notes run now observations :=
  ⟨notes.ofRun, notes.startedAt, notes.findings⟩

theorem pass (notes : journal.Notes run now observations) (step : UInt64) :
    (journal.pass step).Notes run now observations :=
  ⟨notes.ofRun, notes.startedAt, notes.findings⟩

theorem report (notes : journal.Notes run now observations) (observation : Observation) :
    (journal.report observation).Notes run now (observations ++ [observation]) := by
  refine ⟨notes.ofRun, notes.startedAt, ?_⟩
  rw [record_all_concat, ← record_all_length run now, ← notes.findings]
  unfold Journal.report
  rw [notes.ofRun, notes.startedAt]

theorem log_all (notes : journal.Notes run now observations) {α : Type} (tell : α → Event)
    (items : List α) :
    (items.foldl (fun journal item => journal.log (tell item)) journal).Notes run now
      observations := by
  induction items generalizing journal with
  | nil => exact notes
  | cons item rest induction => exact induction (notes.log (tell item))

theorem foldl {α : Type} (enter : Journal → α → Journal) (seen : α → List Observation)
    (each : ∀ {journal observations} (item : α), journal.Notes run now observations →
      (enter journal item).Notes run now (observations ++ seen item))
    (notes : journal.Notes run now observations) (items : List α) :
    (items.foldl enter journal).Notes run now (observations ++ items.flatMap seen) := by
  induction items generalizing journal observations with
  | nil =>
      rw [List.flatMap_nil, List.append_nil]
      exact notes
  | cons item rest induction =>
      have later := induction (each item notes)
      rw [List.append_assoc] at later
      exact later

theorem send_packets (notes : journal.Notes run now observations) (step : UInt64) (flow : Flow)
    (path : List String) :
    (path.foldl (sendPacket step flow) journal).Notes run now observations := by
  induction path generalizing journal with
  | nil => exact notes
  | cons node rest induction => exact induction ((notes.log _).pass step)

theorem conclude (notes : journal.Notes run now observations) (step : UInt64) (flow : Flow)
    (outcome : FlowOutcome) :
    (journal.conclude step flow outcome).Notes run now
      (observations ++ (outcome.observation? flow).toList) := by
  cases outcome with
  | unreachable => exact ((notes.log _).count _).report _
  | blocked firewall decision => exact ((((notes.count _).count _).count _).log _).report _
  | delivered route evaluated =>
      have counted : (if evaluated then journal.count .evaluatePolicy else journal).Notes run now
          observations := by
        cases evaluated with
        | true => exact notes.count _
        | false => exact notes
      have sent := (counted.send_packets step flow route.path).count .processPacket
      rw [FlowOutcome.observation?, Option.toList_none, List.append_nil]
      exact sent.log _

variable {config : Config} {graph : Graph} {events : List Event} {sent : Nat} {counters : Counters}

theorem send_flow (notes : journal.Notes run now observations)
    (remembers : journal.Remembers config graph) (distinct : graph.nodeIds.Nodup) (flow : Flow) :
    (journal.sendFlow config graph flow).Notes run now
      (observations ++ ((config.outcome graph flow).observation? flow).toList) := by
  have started : (journal.log (flow.startEvent journal.clock)).Remembers config graph := remembers
  obtain ⟨policies, resolved, _⟩ := started.resolve_flow_eq distinct flow
  unfold sendFlow
  dsimp only
  rw [resolved]
  apply Notes.conclude
  exact ⟨notes.ofRun, notes.startedAt, notes.findings⟩

/-- The policies that are remembered have to be the right ones all along, so what the journal
records is followed beside what it notes. -/
theorem send_flows (notes : journal.Notes run now observations)
    (records : journal.Records config graph events sent counters)
    (distinct : graph.nodeIds.Nodup) (flows : List Flow) :
    (flows.foldl (sendFlow config graph) journal).Notes run now
      (observations ++ flows.flatMap fun flow =>
        ((config.outcome graph flow).observation? flow).toList) := by
  induction flows generalizing journal observations events sent counters with
  | nil =>
      rw [List.flatMap_nil, List.append_nil]
      exact notes
  | cons flow rest induction =>
      have later := induction (notes.send_flow records.remembers distinct flow)
        (records.send_flow distinct flow)
      rw [List.append_assoc] at later
      exact later

end Notes

end Journal

namespace Config

def observations (config : Config) (graph : Graph) (scenario : Scenario) : List Observation :=
  let faulted := graph.injectAll scenario.faults
  graph.validate.warnings.map Issue.observation ++
    scenario.flows.filterMap (fun flow => (config.outcome faulted flow).observation? flow) ++
    scenario.attacks.map (fun attack => (faulted.resolveAttack attack).observation attack) ++
    faulted.exposures

theorem play_notes (config : Config) (span : Span) {graph : Graph} (scenario : Scenario)
    (valid : graph.validate.valid = true) :
    (config.play graph.validate.warnings (graph.injectAll scenario.faults) scenario
      (.start scenario.id span.startedAt)).Notes (runId scenario.id span.startedAt) span.startedAt
        (config.observations graph scenario) := by
  have distinct := Graph.nodup_inject_all (Graph.nodup_of_valid valid) scenario.faults
  have records := (Journal.records_start config (graph.injectAll scenario.faults) scenario.id
    span.startedAt).reports Issue.observation graph.validate.warnings
  have broken := records.foldl (fun journal fault => journal.log fault.event)
    (fun fault => [fault.event]) (fun fault before => before.log fault.event) scenario.faults
  have warned := (Journal.notes_start scenario.id span.startedAt).foldl
    (fun journal issue => journal.report issue.observation) (fun issue => [issue.observation])
    (fun issue before => before.report issue.observation) graph.validate.warnings
  have sent := (warned.log_all Fault.event scenario.faults).send_flows broken distinct
    scenario.flows
  have attacked := sent.foldl (Journal.tryAttack (graph.injectAll scenario.faults))
    (fun attack =>
      [((graph.injectAll scenario.faults).resolveAttack attack).observation attack])
    (fun attack before => (before.log attack.event).report _) scenario.attacks
  have looked := attacked.foldl Journal.report (fun observation => [observation])
    (fun observation before => before.report observation)
    (graph.injectAll scenario.faults).exposures
  have observed : [] ++ graph.validate.warnings.flatMap (fun issue => [issue.observation]) ++
      scenario.flows.flatMap (fun flow =>
        ((config.outcome (graph.injectAll scenario.faults) flow).observation? flow).toList) ++
      scenario.attacks.flatMap (fun attack =>
        [((graph.injectAll scenario.faults).resolveAttack attack).observation attack]) ++
      (graph.injectAll scenario.faults).exposures.flatMap (fun observation => [observation]) =
      config.observations graph scenario := by
    simp [observations, List.map_eq_flatMap, List.filterMap_eq_flatMap_toList]
  rw [observed] at looked
  exact looked

theorem findings_simulate (config : Config) (span : Span) {graph : Graph} (scenario : Scenario)
    (valid : graph.validate.valid = true) :
    (config.simulate span graph scenario).findings =
      recordAll (runId scenario.id span.startedAt) span.startedAt (config.observations graph scenario) := by
  unfold simulate
  dsimp only
  rw [if_pos valid]
  exact (config.play_notes span scenario valid).findings

end Config

end NetworkTwin
