import NetworkTwin.Proofs.Faults.Cabling
import NetworkTwin.Proofs.Run.Reports
import NetworkTwin.Sample

/-!
What a run says of the topology alone. The warnings at the front of the findings, the exposures at
their end and the blast radius come from the cabling, so that they are the same whatever faults the
scenario injects. Faults show only in between, in what becomes of the flows and the attacks.
-/

namespace NetworkTwin

/-- What the findings of a result are about, identifiers and times aside. -/
def RunResult.observed (result : RunResult) : List Observation :=
  result.findings.map Finding.toObservation

namespace Config

/-- What a run observes of its flows and attacks. -/
def incidents (config : Config) (faulted : Graph) (scenario : Scenario) : List Observation :=
  scenario.flows.filterMap (fun flow => (config.outcome faulted flow).observation? flow) ++
    scenario.attacks.map fun attack => (faulted.resolveAttack attack).observation attack

variable (config : Config) (span : Span) {graph : Graph} (scenario : Scenario)

theorem blast_report_inject_all (graph : Graph) (faults : List Fault) :
    config.blastReport? (graph.injectAll faults) = config.blastReport? graph := by
  unfold blastReport?
  simp only [Graph.blast_radius_inject_all]

theorem simulate_blast_radius (valid : graph.validate.valid = true) :
    (config.simulate span graph scenario).blastRadius = config.blastReport? graph := by
  rw [← config.blast_report_inject_all graph scenario.faults]
  unfold simulate
  dsimp only
  rw [if_pos valid]
  rfl

theorem simulate_observed (valid : graph.validate.valid = true) :
    (config.simulate span graph scenario).observed =
      graph.validate.warnings.map Issue.observation ++
        config.incidents (graph.injectAll scenario.faults) scenario ++ graph.exposures := by
  rw [RunResult.observed, findings_simulate config span scenario valid, observed_record_all,
    ← graph.exposures_inject_all scenario.faults, incidents, observations, List.append_assoc,
    List.append_assoc, List.append_assoc, List.append_assoc]

end Config

namespace Graph

/-- The report, the exposures and the blast radius are those of the topology before the faults. So a
run that can start does not go on with a topology that is not valid, and what it says of the
topology alone does not depend on the faults of the scenario. -/
theorem analyses_ignore_faults (graph : Graph) :
    (∀ faults : List Fault,
      (graph.injectAll faults).validate = graph.validate ∧
      (graph.injectAll faults).exposures = graph.exposures ∧
      ∀ node, (graph.injectAll faults).blastRadius node = graph.blastRadius node) ∧
    (graph.validate.valid = true → ∀ (config : Config) (span : Span) (scenario : Scenario),
      (graph.injectAll scenario.faults).validate.valid = true ∧
      (config.simulate span graph scenario).blastRadius = config.blastReport? graph ∧
      (config.simulate span graph scenario).observed =
        graph.validate.warnings.map Issue.observation ++
          config.incidents (graph.injectAll scenario.faults) scenario ++ graph.exposures) := by
  constructor
  · intro faults
    exact ⟨graph.validate_inject_all faults, graph.exposures_inject_all faults,
      graph.blast_radius_inject_all faults⟩
  · intro valid config span scenario
    refine ⟨?_, config.simulate_blast_radius span scenario valid,
      config.simulate_observed span scenario valid⟩
    rw [validate_inject_all]
    exact valid

/-- The office loses the link of its kiosk, and its administration is still next to guests. -/
theorem analyses_ignore_faults_office :
    let config := Config.default.withBlastNode "adm1"
    let result := config.simulate .epoch Sample.office Sample.officeDay
    Sample.office.validate.valid = true ∧ Sample.officeDay.faults ≠ [] ∧
      result.blastRadius = config.blastReport? Sample.office ∧
      (result.observed.getLast?.map (·.title)) =
        some "Admin Interface Accessible from Guest Network" := by
  have valid : Sample.office.validate.valid = true := by decide +kernel
  obtain ⟨_, blast, observed⟩ := (analyses_ignore_faults Sample.office).2 valid
    (Config.default.withBlastNode "adm1") .epoch Sample.officeDay
  refine ⟨valid, by simp [Sample.officeDay, Scenario.addFault, Scenario.addAttack], blast, ?_⟩
  have last : (Sample.office.exposures.getLast?.map (·.title)) =
      some "Admin Interface Accessible from Guest Network" := by decide +kernel
  obtain ⟨exposure, found, title⟩ := Option.map_eq_some_iff.1 last
  rw [observed, List.getLast?_append, found]
  exact congrArg some title

end Graph

end NetworkTwin
