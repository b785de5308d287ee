import NetworkTwin.Proofs.Routing.Closed
import NetworkTwin.Proofs.Run.Assembly
import NetworkTwin.Sample

/-!
A run fails as a whole or not at all. It fails if and only if the topology cannot be used, and then
it tells the errors of the topology and nothing else, whatever the scenario holds: no flow, fault or
attack has left a trace. Any other run is completed, and it is measured on the topology after the
faults.
-/

namespace NetworkTwin

/-- Whether two entries of the list of nodes have one id, or a link ends at a node that is not
declared. -/
def Graph.Broken (graph : Graph) : Prop :=
  (∃ (earlier later : Nat) (first second : Node), earlier < later ∧
    graph.nodes[earlier]? = some first ∧ graph.nodes[later]? = some second ∧
      first.id = second.id) ∨
  ∃ link ∈ graph.links, graph.declares link.source = false ∨ graph.declares link.target = false

namespace Graph

variable {graph : Graph}

theorem nodup_iff_no_shared_id :
    graph.nodeIds.Nodup ↔ ¬ ∃ (earlier later : Nat) (first second : Node), earlier < later ∧
      graph.nodes[earlier]? = some first ∧ graph.nodes[later]? = some second ∧
        first.id = second.id := by
  rw [nodeIds, List.Nodup, List.pairwise_map, List.pairwise_iff_getElem]
  constructor
  · rintro distinct ⟨earlier, later, first, second, before, atEarlier, atLater, same⟩
    obtain ⟨earlierBound, rfl⟩ := List.getElem?_eq_some_iff.1 atEarlier
    obtain ⟨laterBound, rfl⟩ := List.getElem?_eq_some_iff.1 atLater
    exact distinct earlier later earlierBound laterBound before same
  · intro none earlier later earlierBound laterBound before same
    exact none ⟨earlier, later, _, _, before, List.getElem?_eq_getElem earlierBound,
      List.getElem?_eq_getElem laterBound, same⟩

theorem closed_iff_no_loose_end :
    graph.Closed ↔ ¬ ∃ link ∈ graph.links,
      graph.declares link.source = false ∨ graph.declares link.target = false := by
  simp [Closed, Link.ends]

theorem valid_eq_false_iff : graph.validate.valid = false ↔ graph.Broken := by
  rw [← Bool.not_eq_true, valid_iff, nodup_iff_no_shared_id, closed_iff_no_loose_end, ← not_or,
    Classical.not_not, Broken]

theorem blast_radius_is_ok_iff {node : String} :
    (graph.blastRadius node).toOption.isSome = true ↔ graph.declares node = true := by
  unfold blastRadius
  cases graph.declares node <;> simp [Except.toOption]

end Graph

/-- The result tells the errors of the topology, in the order of the report, in a single event. Its
tables are those of the topology as it was given, and there is nothing else to it. -/
structure RunResult.TellsErrorsOnly (result : RunResult) (graph : Graph) : Prop where
  events : result.events = [.plain 0 .faultInjected
    ("Graph validation failed: " ++ Text.joinWith ", " (graph.validate.errors.map (·.message)))]
  findings : result.findings = []
  blastRadius : result.blastRadius = none
  counters : result.metrics.toCounters = .zero
  reachability : result.metrics.reachability = graph.reachability
  latencies : result.metrics.latencies = graph.latencies

/-- The tables of the result are those of the topology after the faults, and it has a blast radius
if the node that is asked for is declared. -/
structure RunResult.MeasuresFaulted (result : RunResult) (config : Config) (graph : Graph)
    (faults : List Fault) : Prop where
  reachability : result.metrics.reachability = (graph.injectAll faults).reachability
  latencies : result.metrics.latencies = (graph.injectAll faults).latencies
  blastRadius : result.blastRadius.isSome = true ↔
    ∃ node, config.blastNode = some node ∧ graph.declares node = true

namespace Config

theorem blast_report_is_some_iff {config : Config} {graph : Graph} :
    (config.blastReport? graph).isSome = true ↔
      ∃ node, config.blastNode = some node ∧ graph.declares node = true := by
  unfold blastReport?
  cases config.blastNode with
  | none => simp
  | some node => simpa using Graph.blast_radius_is_ok_iff

theorem completion_measures_faulted (config : Config) (span : Span) (graph : Graph)
    (scenario : Scenario) :
    (config.completion span graph scenario).MeasuresFaulted config graph scenario.faults := by
  refine ⟨rfl, rfl, ?_⟩
  exact blast_report_is_some_iff.trans (by simp only [Graph.declares_inject_all])

/-- A run fails if and only if the topology is broken, and is completed otherwise. If it fails, it
tells the errors only, and any settings and any scenario of the same id would have told the same. -/
theorem simulate_all_or_nothing (config : Config) (span : Span) (graph : Graph)
    (scenario : Scenario) :
    let result := config.simulate span graph scenario
    (result.status = .failed ↔ graph.Broken) ∧
    (result.status = .completed ↔ ¬ graph.Broken) ∧
    (result.status = .failed → result.TellsErrorsOnly graph ∧
      ∀ (settings : Config) (other : Scenario), other.id = scenario.id →
        settings.simulate span graph other = result) ∧
    (result.status = .completed → result.MeasuresFaulted config graph scenario.faults) := by
  dsimp only
  cases valid : graph.validate.valid with
  | false =>
      have broken := Graph.valid_eq_false_iff.1 valid
      have failed (settings : Config) (other : Scenario) :=
        settings.simulate_eq_failure span other valid
      rw [failed]
      refine ⟨⟨fun _ => broken, fun _ => rfl⟩, ⟨fun completed => (nomatch completed),
        fun whole => absurd broken whole⟩, fun _ => ⟨⟨rfl, rfl, rfl, rfl, rfl, rfl⟩, ?_⟩,
        fun completed => nomatch completed⟩
      intro settings other same
      rw [failed, same]
  | true =>
      have whole : ¬ graph.Broken := by
        rw [← Graph.valid_eq_false_iff, valid]
        decide
      rw [config.simulate_eq_completion span scenario valid]
      exact ⟨⟨fun failed => (nomatch failed), fun broken => absurd broken whole⟩,
        ⟨fun _ => whole, fun _ => rfl⟩, fun failed => (nomatch failed),
        fun _ => config.completion_measures_faulted span graph scenario⟩

/-- With a link into nowhere even a scenario that cuts this link fails, and no fault is told. -/
theorem simulate_all_or_nothing_torn :
    let torn := Sample.routerAndServer.addLink (.plain "l2" "server" "ghost")
    let scenario := (Scenario.plain "s" "S" "t").addFault (.plain "cut" .linkDown "l2")
    let result := Config.default.simulate .epoch torn scenario
    torn.Broken ∧ result.status = .failed ∧
      result.events.map (·.message) =
        ["Graph validation failed: Link l2 references non-existent target node: ghost"] ∧
      Config.default.simulate .epoch torn (.plain "s" "another" "u") = result := by
  dsimp only
  have broken : (Sample.routerAndServer.addLink (.plain "l2" "server" "ghost")).Broken :=
    Or.inr ⟨.plain "l2" "server" "ghost", by simp [Sample.routerAndServer, Graph.addLink,
      Graph.addNode, Graph.empty], Or.inr (by decide)⟩
  obtain ⟨fails, _, tells, _⟩ := simulate_all_or_nothing Config.default .epoch
    (Sample.routerAndServer.addLink (.plain "l2" "server" "ghost"))
    ((Scenario.plain "s" "S" "t").addFault (.plain "cut" .linkDown "l2"))
  have failed := fails.2 broken
  obtain ⟨errors, same⟩ := tells failed
  refine ⟨broken, failed, ?_, same _ _ rfl⟩
  rw [errors.events]
  decide +kernel

end Config

end NetworkTwin
