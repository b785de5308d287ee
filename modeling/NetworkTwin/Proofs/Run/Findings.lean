import NetworkTwin.Proofs.Run.Assembly
import NetworkTwin.Proofs.Run.Attacks

/-!
The whole of what a run finds. Each warning about the topology is one finding, each attack is one,
and a flow is one unless it arrives; after them come the exposures of the topology as it was before
the faults. Nothing else is found, and all of it in the order of the topology and the scenario.
-/

namespace NetworkTwin

/-- What a warning about the topology is found as. -/
structure Issue.FoundAs (issue : Issue) (observation : Observation) : Prop where
  noted : observation = issue.observation
  severity : observation.severity = .medium
  title : observation.title = "Topology Warning"

/-- What is found of a flow: that it has no route, that the first firewall on its route denies it,
or nothing if there is a route and its first firewall, if any, lets the flow pass. -/
inductive Flow.FoundAs (config : Config) (graph : Graph) (flow : Flow) : List Observation → Prop
  | unreachable (lost : graph.findPath flow.source flow.destination = none)
      (title : flow.unreachable.title = "Unreachable Destination") :
      FoundAs config graph flow [flow.unreachable]
  | blocked {route : Route} {firewall : Node} {decision : Decision}
      (found : graph.findPath flow.source flow.destination = some route)
      (first : graph.FirstFirewall route.path firewall)
      (decided : (config.policyOf firewall).evaluate graph.tags flow.query = decision)
      (denied : decision.allowed = false)
      (title : (flow.blocked firewall decision).title = "Traffic Blocked by Policy") :
      FoundAs config graph flow [flow.blocked firewall decision]
  | delivered {route : Route}
      (found : graph.findPath flow.source flow.destination = some route)
      (passed : ∀ firewall, graph.FirstFirewall route.path firewall →
        ((config.policyOf firewall).evaluate graph.tags flow.query).allowed = true) :
      FoundAs config graph flow []

/-- What an attack is found as. -/
structure AttackEvent.FoundAs (graph : Graph) (attack : AttackEvent) (observation : Observation) :
    Prop where
  noted : observation = (graph.resolveAttack attack).observation attack
  title : observation.title = "Attack Event: " ++ attack.kind.name

/-- What a run has to find if it can start. Warnings and exposures are those of the topology that it
is given; flows and attacks meet the faults. -/
def Config.Finds (config : Config) (graph : Graph) (scenario : Scenario)
    (observations : List Observation) : Prop :=
  let faulted := graph.injectAll scenario.faults
  ∃ (warned : List Observation) (sent : List (List Observation)) (tried : List Observation),
    List.Forall₂ Issue.FoundAs graph.validate.warnings warned ∧
    List.Forall₂ (Flow.FoundAs config faulted) scenario.flows sent ∧
    List.Forall₂ (AttackEvent.FoundAs faulted) scenario.attacks tried ∧
    observations = warned ++ sent.flatten ++ tried ++ graph.exposures

theorem Issue.found_as_iff (issue : Issue) (observation : Observation) :
    issue.FoundAs observation ↔ issue.observation = observation := by
  constructor
  · intro found
    exact found.noted.symm
  · rintro rfl
    exact ⟨rfl, rfl, rfl⟩

theorem AttackEvent.found_as_iff {graph : Graph} (attack : AttackEvent)
    (observation : Observation) :
    attack.FoundAs graph observation ↔
      (graph.resolveAttack attack).observation attack = observation := by
  constructor
  · intro found
    exact found.noted.symm
  · rintro rfl
    exact ⟨rfl, rfl⟩

namespace Flow

variable {config : Config} {graph : Graph}

theorem found_as_outcome (flow : Flow) : flow.FoundAs config graph
    ((config.outcome graph flow).observation? flow).toList := by
  cases found : graph.findPath flow.source flow.destination with
  | none =>
      rw [Config.outcome_eq_unreachable_iff.2 found]
      exact .unreachable found rfl
  | some route =>
      cases guarded : graph.firewallOn? route.path with
      | none =>
          rw [Config.outcome_of_free found guarded]
          refine .delivered found fun firewall first => ?_
          rw [Graph.firewall_on_eq_some_iff.2 first] at guarded
          cases guarded
      | some guard =>
          rcases config.decides_outcome found guarded with
            ⟨allowed, _, delivered⟩ | ⟨denied, blocked⟩
          · rw [delivered]
            refine .delivered found fun firewall first => ?_
            rw [Graph.firewall_on_eq_some_iff.2 first] at guarded
            obtain rfl := Option.some.inj guarded
            exact allowed
          · rw [blocked]
            exact .blocked found (Graph.first_of_firewall_on guarded) rfl denied rfl

/-- There is one firewall that decides, and one decision, so only one thing can be found. -/
theorem found_as_iff (flow : Flow) (observations : List Observation) :
    flow.FoundAs config graph observations ↔
      ((config.outcome graph flow).observation? flow).toList = observations := by
  constructor
  · intro foundAs
    cases foundAs with
    | unreachable lost =>
        rw [Config.outcome_eq_unreachable_iff.2 lost]
        rfl
    | blocked found first decided denied =>
        subst decided
        rcases config.decides_outcome found (Graph.firewall_on_eq_some_iff.2 first) with
          ⟨allowed, _⟩ | ⟨_, blocked⟩
        · rw [denied] at allowed
          cases allowed
        · rw [blocked]
          rfl
    | @delivered route found passed =>
        cases guarded : graph.firewallOn? route.path with
        | none =>
            rw [Config.outcome_of_free found guarded]
            rfl
        | some guard =>
            rcases config.decides_outcome found guarded with
              ⟨_, _, delivered⟩ | ⟨denied, _⟩
            · rw [delivered]
              rfl
            · rw [passed guard (Graph.first_of_firewall_on guarded)] at denied
              cases denied
  · rintro rfl
    exact flow.found_as_outcome

end Flow

theorem forall₂_iff_map_eq {α β : Type} {relates : α → β → Prop} {value : α → β}
    (functional : ∀ item other, relates item other ↔ value item = other) {items : List α}
    {others : List β} : List.Forall₂ relates items others ↔ items.map value = others := by
  have same : relates = fun item other => value item = other :=
    funext fun item => funext fun other => propext (functional item other)
  rw [← List.forall₂_eq_eq_eq, List.forall₂_map_left_iff, same]

theorem created_at_of_mem_record_all {run : String} {now : Instant}
    {observations : List Observation} {finding : Finding}
    (member : finding ∈ recordAll run now observations) : finding.createdAt = now := by
  obtain ⟨place, _, rfl⟩ := List.mem_mapIdx.1 member
  rfl

namespace Config

variable (config : Config) (span : Span) (graph : Graph) (scenario : Scenario)

theorem finds_iff {observations : List Observation} :
    config.Finds graph scenario observations ↔
      graph.validate.warnings.map Issue.observation ++
        config.incidents (graph.injectAll scenario.faults) scenario ++ graph.exposures =
          observations := by
  have warned (found : List Observation) :
      List.Forall₂ Issue.FoundAs graph.validate.warnings found ↔
        graph.validate.warnings.map Issue.observation = found :=
    forall₂_iff_map_eq Issue.found_as_iff
  have sent (found : List (List Observation)) :
      List.Forall₂ (Flow.FoundAs config (graph.injectAll scenario.faults)) scenario.flows found ↔
        _ = found :=
    forall₂_iff_map_eq Flow.found_as_iff
  have tried (found : List Observation) :
      List.Forall₂ (AttackEvent.FoundAs (graph.injectAll scenario.faults)) scenario.attacks found ↔
        _ = found :=
    forall₂_iff_map_eq AttackEvent.found_as_iff
  simp only [Finds, warned, sent, tried, exists_and_left, exists_eq_left']
  rw [incidents, List.filterMap_eq_flatMap_toList, List.flatMap_def, ← List.append_assoc]
  exact eq_comm

/-- The findings are complete and in order: those of a completed run are exactly what it has to find,
and all are stamped with the time at which it started. -/
theorem findings_complete_and_ordered
    (completed : (config.simulate span graph scenario).status = .completed) :
    (∀ observations, (config.simulate span graph scenario).observed = observations ↔
      config.Finds graph scenario observations) ∧
    ∀ finding ∈ (config.simulate span graph scenario).findings,
      finding.createdAt = (config.simulate span graph scenario).startedAt := by
  have valid := valid_of_completed completed
  constructor
  · intro observations
    rw [finds_iff, config.simulate_observed span scenario valid]
  · rw [config.simulate_eq_completion span scenario valid]
    exact fun finding member => created_at_of_mem_record_all member

/-- At the office two of the four flows arrive, and nothing is found of them. -/
theorem findings_complete_and_ordered_office :
    let result := Config.default.simulate .epoch Sample.office Sample.officeDay
    result.status = .completed ∧
      Config.default.Finds Sample.office Sample.officeDay result.observed ∧
      (∀ finding ∈ result.findings, finding.createdAt = result.startedAt) ∧
      result.observed.map (·.title) =
        ["Topology Warning", "Traffic Blocked by Policy", "Unreachable Destination",
          "Attack Event: recon-scan", "Attack Event: lateral-movement",
          "Public Service Without TLS", "Admin Interface Accessible from Guest Network"] := by
  have valid : Sample.office.validate.valid = true := by decide +kernel
  have completed := (simulate_eq Config.default .epoch Sample.officeDay valid).1
  obtain ⟨found, stamped⟩ :=
    findings_complete_and_ordered Config.default .epoch Sample.office Sample.officeDay completed
  exact ⟨completed, (found _).1 rfl, stamped, by decide +kernel⟩

end Config

end NetworkTwin
