import NetworkTwin.Proofs.Run.Assembly
import NetworkTwin.Proofs.Topology.Operative
import NetworkTwin.Sample

/-!
Descriptions do not influence runs. What only describes a topology, its parts, a scenario or its
faults may be changed at will, and the result of a run is the same to the last detail.
-/

namespace NetworkTwin

/-- The scenario with nothing said of what only describes it or its faults. -/
def Scenario.operative (scenario : Scenario) : Scenario :=
  { scenario with
    name := "", description := none, topologyId := "", duration := 0, options := none,
    faults := scenario.faults.map Fault.operative }

def FlowOutcome.operative : FlowOutcome → FlowOutcome
  | .unreachable => .unreachable
  | .blocked firewall decision => .blocked firewall.operative decision
  | .delivered route evaluated => .delivered route evaluated

namespace FlowOutcome

variable (outcome : FlowOutcome)

theorem packets_operative : outcome.operative.packets = outcome.packets := by
  cases outcome <;> rfl

theorem observation_operative (flow : Flow) :
    outcome.operative.observation? flow = outcome.observation? flow := by
  cases outcome <;> rfl

theorem enter_operative (counters : Counters) :
    counters.enter outcome.operative = counters.enter outcome := by
  cases outcome with
  | unreachable => rfl
  | blocked firewall decision => rfl
  | delivered route evaluated => cases evaluated <;> rfl

theorem block_operative (flow : Flow) (step : UInt64) (sent : Nat) :
    flow.block step sent outcome.operative = flow.block step sent outcome := by
  cases outcome <;> rfl

end FlowOutcome

namespace Config

variable (config : Config) (graph : Graph)

theorem outcome_operative (flow : Flow) :
    config.outcome graph.operative flow = (config.outcome graph flow).operative := by
  unfold outcome
  rw [graph.routed_alike_operative.findPath]
  cases graph.findPath flow.source flow.destination with
  | none => rfl
  | some route =>
      dsimp only
      rw [Graph.firewall_on_operative, Graph.tags_operative]
      cases graph.firewallOn? route.path with
      | none => rfl
      | some firewall =>
          change ite _ _ _ = FlowOutcome.operative (ite _ _ _)
          rw [apply_ite FlowOutcome.operative]
          rfl

theorem blocks_operative (sent : Nat) (flows : List Flow) :
    config.blocks graph.operative sent flows = config.blocks graph sent flows := by
  induction flows generalizing sent with
  | nil => rfl
  | cons flow rest induction =>
      simp only [blocks, outcome_operative, FlowOutcome.block_operative,
        FlowOutcome.packets_operative, induction]

theorem counted_operative (counters : Counters) (flows : List Flow) :
    (flows.map (config.outcome graph.operative)).foldl Counters.enter counters =
      (flows.map (config.outcome graph)).foldl Counters.enter counters := by
  induction flows generalizing counters with
  | nil => rfl
  | cons flow rest induction =>
      rw [List.map_cons, List.map_cons, List.foldl_cons, List.foldl_cons, outcome_operative,
        FlowOutcome.enter_operative, induction]

theorem faulted_operative (scenario : Scenario) :
    graph.operative.injectAll scenario.operative.faults =
      (graph.injectAll scenario.faults).operative :=
  (graph.operative_inject_all scenario.faults).symm

theorem observations_operative (scenario : Scenario) :
    config.observations graph.operative scenario.operative =
      config.observations graph scenario := by
  unfold observations
  rw [faulted_operative]
  simp only [Graph.validate_operative, Graph.exposures_operative, Graph.resolve_attack_operative,
    outcome_operative, FlowOutcome.observation_operative]
  rfl

theorem blast_report_operative :
    config.blastReport? graph.operative = config.blastReport? graph := by
  unfold blastReport?
  simp only [Graph.blast_radius_operative]

variable (span : Span) (scenario : Scenario)

theorem completion_operative :
    config.completion span graph.operative scenario.operative =
      config.completion span graph scenario := by
  have injected : scenario.operative.faults.map Fault.event = scenario.faults.map Fault.event :=
    List.map_map
  have routed := (graph.injectAll scenario.faults).routed_alike_operative
  unfold completion
  dsimp only
  rw [observations_operative, faulted_operative, injected, blocks_operative, counted_operative,
    routed.reachability, routed.latencies, blast_report_operative]
  rfl

theorem simulate_operative :
    config.simulate span graph.operative scenario.operative =
      config.simulate span graph scenario := by
  have report := graph.validate_operative
  cases valid : graph.validate.valid with
  | false =>
      rw [config.simulate_eq_failure span scenario valid,
        config.simulate_eq_failure span scenario.operative (report ▸ valid), report,
        StructureReport.failure, graph.routed_alike_operative.reachability,
          graph.routed_alike_operative.latencies]
      rfl
  | true =>
      rw [config.simulate_eq_completion span scenario valid,
        config.simulate_eq_completion span scenario.operative (report ▸ valid),
        completion_operative]

/-- Topologies and scenarios that differ in descriptions only come to the same result. -/
theorem simulate_ignores_descriptions {graph other : Graph} {scenario another : Scenario}
    (alike : graph.operative = other.operative) (same : scenario.operative = another.operative) :
    config.simulate span graph scenario = config.simulate span other another := by
  rw [← config.simulate_operative graph, alike, same, config.simulate_operative]

/-- The links of the office are described as fibre, and the fault brings a loss: no result tells. -/
theorem simulate_ignores_descriptions_office :
    let repainted : Graph :=
      { nodes := Sample.office.nodes.map fun node =>
          { node with os := some "unix", version := some "7", position := ⟨3.0, 4.0⟩ }
        links := Sample.office.links.map fun link =>
          { link with bandwidth := 10.0, jitter := 0.5, canFail := true, label := some "fibre" }
        metadata := some ⟨some "Office", none, none, none⟩ }
    let lossy : Scenario :=
      { Sample.officeDay with
        name := "A rainy day"
        faults := Sample.officeDay.faults.map fun fault =>
          { fault with
            id := "rain"
            duration := some 5
            params := some ⟨fault.params.bind (·.latency), some 20.0⟩ } }
    repainted.operative = Sample.office.operative ∧
      lossy.operative = Sample.officeDay.operative ∧
      default.simulate .epoch repainted lossy =
        default.simulate .epoch Sample.office Sample.officeDay := by
  intro repainted lossy
  have alike : repainted.operative = Sample.office.operative := by
    simp only [repainted, Graph.operative, List.map_map]
    rfl
  have same : lossy.operative = Sample.officeDay.operative := by
    simp only [lossy, Scenario.operative, List.map_map]
    rfl
  exact ⟨alike, same, simulate_ignores_descriptions default .epoch alike same⟩

end Config

end NetworkTwin
