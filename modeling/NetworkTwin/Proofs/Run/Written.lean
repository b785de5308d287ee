import NetworkTwin.Proofs.Routing.Amounts
import NetworkTwin.Proofs.Run.Evidence
import NetworkTwin.Proofs.Run.Independence
import NetworkTwin.Sample

/-!
Results of runs survive being written. A run leaves nothing in its result that would be lost: the
latencies it adds up are finite or run over into infinity, and its evidence is never nothing. Where
there is no way from one node to another, nothing is written, and it is read as infinity again.
-/

namespace NetworkTwin

/-- The latencies of the links, and those that faults set, are finite and not negative. -/
structure Graph.Timed (graph : Graph) (faults : List Fault) : Prop where
  links : ∀ link ∈ graph.links, isQuantity link.latency = true
  faults : ∀ fault ∈ faults, ∀ params ∈ fault.params, ∀ latency ∈ params.latency,
    isQuantity latency = true

theorem Graph.Timed.takes_amounts {graph : Graph} {faults : List Fault}
    (timed : graph.Timed faults) : graph.TakesAmounts :=
  fun link member => is_amount_of_is_quantity (timed.links link member)

theorem Graph.Timed.takes_amounts_faulted {graph : Graph} {faults : List Fault}
    (timed : graph.Timed faults) : (graph.injectAll faults).TakesAmounts :=
  timed.takes_amounts.inject_all fun fault member params given latency sets =>
    is_amount_of_is_quantity (timed.faults fault member params given latency sets)

theorem Graph.TakesAmounts.extends_latencies {graph : Graph} (takes : graph.TakesAmounts) :
    Matrix.Extends graph.latencies :=
  fun row inTable cell inRow => (takes.latencies row inTable cell inRow).finite_or_infinite

/-- Both tables of the result are those of one topology. -/
def RunResult.Measured (result : RunResult) : Prop :=
  ∃ graph : Graph, result.metrics.reachability = graph.reachability ∧
    result.metrics.latencies = graph.latencies

theorem RunResult.told_latency_eq_null_iff {result : RunResult}
    (extended : Matrix.Extends result.metrics.latencies) (source target : String) :
    result.encode.toldLatency? source target = some .null ↔
      (result.metrics.latencies.get? source).bind (·.get? target) = some (1.0 / 0.0) := by
  rw [told_latency_encode]
  constructor
  · intro told
    obtain ⟨latency, entry, written⟩ := Option.map_eq_some_iff.1 told
    obtain ⟨row, atSource, atTarget⟩ := Option.bind_eq_some_iff.1 entry
    rcases extended _ (Entries.mem_of_lookup atSource) _ (Entries.mem_of_lookup atTarget) with
      finite | infinite
    · rw [Value.real, if_pos finite] at written
      cases written
    · rw [entry]
      exact congrArg some infinite
  · intro entry
    rw [entry, Option.map_some, Value.real_infinity]

theorem Flow.metadata_of_mem_told {flow : Flow} {outcome : FlowOutcome} {event : Event}
    (member : event ∈ flow.told outcome) : event.metadata = none := by
  cases outcome with
  | unreachable =>
      rcases List.mem_pair.1 member with rfl | rfl <;> rfl
  | blocked firewall decision =>
      rcases List.mem_pair.1 member with rfl | rfl <;> rfl
  | delivered route evaluated =>
      rcases List.mem_append.1 member with before | ended
      · rcases List.mem_cons.1 before with rfl | sent
        · rfl
        · obtain ⟨node, _, rfl⟩ := List.mem_map.1 sent
          rfl
      · obtain rfl := List.mem_singleton.1 ended
        rfl

/-- Whether both times are read back from their written forms. -/
structure Span.ReadsBack (span : Span) : Prop where
  startedAt : Instant.read? span.startedAt.render = some span.startedAt
  finishedAt : Instant.read? span.finishedAt.render = some span.finishedAt

namespace Config

variable (config : Config) (span : Span) (graph : Graph) {scenario : Scenario}

theorem metadata_of_mem_blocks {sent : Nat} {flows : List Flow} {event : Event}
    (member : event ∈ (config.blocks graph sent flows).flatten) : event.metadata = none := by
  have untimed := List.mem_map_of_mem (f := Event.untimed) member
  rw [untimed_blocks] at untimed
  obtain ⟨flow, _, told⟩ := List.mem_flatMap.1 untimed
  have none : event.untimed.metadata = none := Flow.metadata_of_mem_told told
  exact none

theorem completion_holds_documents (holds : scenario.HoldsDocuments) :
    (config.completion span graph scenario).HoldsDocuments ∧
      ∀ finding ∈ (config.completion span graph scenario).findings,
        finding.evidence ≠ some .null := by
  have substantiated : ∀ finding ∈ (config.completion span graph scenario).findings,
      finding.toObservation.Substantiated := by
    intro finding member
    have observed := List.mem_map_of_mem (f := Finding.toObservation) member
    rw [completion, observed_record_all] at observed
    exact config.substantiated_observations graph holds observed
  have documents (finding : Finding) (member) (evidence : Value) (given) :=
    (substantiated finding member evidence given).1
  have present (finding : Finding) (member) (absent) :=
    (substantiated finding member .null absent).2 rfl
  refine ⟨⟨?_, documents⟩, present⟩
  intro event member metadata given
  rcases List.mem_append.1 member with before | attacked
  · rcases List.mem_append.1 before with injected | sent
    · obtain ⟨fault, _, rfl⟩ := List.mem_map.1 injected
      cases given
    · rw [config.metadata_of_mem_blocks _ sent] at given
      cases given
  · obtain ⟨attack, tried, rfl⟩ := List.mem_map.1 attacked
    exact holds attack tried metadata given

theorem stamps_completion :
    ∀ stamp ∈ (config.completion span graph scenario).stamps,
      stamp = span.startedAt ∨ stamp = span.finishedAt := by
  intro stamp member
  rcases List.mem_append.1 member with run | found
  · exact List.mem_pair.1 run
  · obtain ⟨finding, recorded, rfl⟩ := List.mem_map.1 found
    obtain ⟨place, _, rfl⟩ := List.mem_mapIdx.1 recorded
    exact Or.inl rfl

theorem simulate_writable (timed : graph.Timed scenario.faults)
    (holds : scenario.HoldsDocuments) :
    (config.simulate span graph scenario).Writable := by
  apply config.forall_simulate span scenario
  · exact ⟨timed.takes_amounts.extends_latencies, fun finding none => nomatch none⟩
  · exact ⟨timed.takes_amounts_faulted.extends_latencies,
      (config.completion_holds_documents span graph holds).2⟩

theorem simulate_holds_documents (holds : scenario.HoldsDocuments) :
    (config.simulate span graph scenario).HoldsDocuments := by
  apply config.forall_simulate span scenario
  · refine ⟨?_, fun finding none => nomatch none⟩
    intro event told metadata given
    obtain rfl := List.mem_singleton.1 told
    cases given
  · exact (config.completion_holds_documents span graph holds).1

theorem simulate_stamped (scenario : Scenario) (readsBack : span.ReadsBack) :
    (config.simulate span graph scenario).Stamped := by
  have either {stamp : Instant} (told : stamp = span.startedAt ∨ stamp = span.finishedAt) :
      Instant.read? stamp.render = some stamp := by
    rcases told with rfl | rfl
    · exact readsBack.startedAt
    · exact readsBack.finishedAt
  apply config.forall_simulate span scenario
  · exact fun stamp member => either (List.mem_pair.1 member)
  · exact fun stamp member => either (config.stamps_completion span graph stamp member)

theorem simulate_measured (scenario : Scenario) :
    (config.simulate span graph scenario).Measured := by
  apply config.forall_simulate span scenario
  · exact ⟨graph, rfl, rfl⟩
  · exact ⟨graph.injectAll scenario.faults, rfl, rfl⟩

theorem simulate_latency_of_unreachable (scenario : Scenario) {source target : String}
    (unreachable : ((config.simulate span graph scenario).metrics.reachability.get? source).bind
      (·.get? target) = some false) :
    ((config.simulate span graph scenario).metrics.latencies.get? source).bind (·.get? target) =
      some (1.0 / 0.0) := by
  obtain ⟨measured, reachability, latencies⟩ := config.simulate_measured span graph scenario
  rw [reachability] at unreachable
  rw [latencies]
  exact Graph.latency_of_unreachable unreachable

end Config

/-- A result is read back as it was if its latencies are finite or infinite above and no evidence is
nothing; the infinite latencies are those that nothing is written for. Every run on links whose
latencies are finite and not negative, whatever the faults set among such, ends in a result of this
kind, and nothing is written where there is no way. The times have to read back, and free-form data
has to be such as documents hold. -/
theorem results_read_back :
    (∀ result : RunResult, result.HoldsDocuments → result.Stamped → result.Writable →
      RunResult.codec.Keeps result ∧ ∀ source target,
        (result.encode.toldLatency? source target = some .null ↔
          (result.metrics.latencies.get? source).bind (·.get? target) = some (1.0 / 0.0))) ∧
    ∀ (config : Config) (span : Span) (graph : Graph) (scenario : Scenario),
      graph.Timed scenario.faults → scenario.HoldsDocuments → span.ReadsBack →
      let result := config.simulate span graph scenario
      result.Writable ∧ RunResult.codec.Keeps result ∧ ∀ source target,
        (result.metrics.reachability.get? source).bind (·.get? target) = some false →
          (result.metrics.latencies.get? source).bind (·.get? target) = some (1.0 / 0.0) ∧
          result.encode.toldLatency? source target = some .null := by
  refine ⟨?_, ?_⟩
  · intro result documents stamped writable
    exact ⟨RunResult.keeps documents stamped writable,
      RunResult.told_latency_eq_null_iff writable.latencies⟩
  · intro config span graph scenario timed holds readsBack
    have writable := config.simulate_writable span graph timed holds
    have documents := config.simulate_holds_documents span graph holds
    have stamped := config.simulate_stamped span graph scenario readsBack
    refine ⟨writable, RunResult.keeps documents stamped writable, ?_⟩
    intro source target unreachable
    have infinite := config.simulate_latency_of_unreachable span graph scenario unreachable
    exact ⟨infinite,
      (RunResult.told_latency_eq_null_iff writable.latencies source target).2 infinite⟩

/-- The link of the kiosk has failed, so that nothing is written for its way to the core. -/
theorem results_read_back_office :
    let span : Span := ⟨.epoch, ⟨1, 500000000⟩⟩
    let result := Config.default.simulate span Sample.office Sample.officeDay
    Sample.office.Timed Sample.officeDay.faults ∧ Sample.officeDay.HoldsDocuments ∧
      span.ReadsBack ∧
      RunResult.decode result.encode.toTree = .ok result ∧
      result.encode.toldLatency? "kiosk" "core" = some .null := by
  intro span result
  have timed : Sample.office.Timed Sample.officeDay.faults := by
    constructor
    · decide +kernel
    · intro fault given params set
      obtain rfl := List.mem_singleton.1 given
      cases set
  have holds : Sample.officeDay.HoldsDocuments := by
    intro attack tried metadata given
    rcases List.mem_pair.1 tried with rfl | rfl <;> cases given
  have readsBack : span.ReadsBack := ⟨by decide, by decide⟩
  obtain ⟨_, runs⟩ := results_read_back
  obtain ⟨_, kept, nothing⟩ := runs Config.default span Sample.office Sample.officeDay timed holds
    readsBack
  exact ⟨timed, holds, readsBack, kept.readsBack, (nothing "kiosk" "core" (by decide +kernel)).2⟩

end NetworkTwin
