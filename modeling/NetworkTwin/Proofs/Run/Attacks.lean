import NetworkTwin.Proofs.Run.Enforcement
import NetworkTwin.Proofs.Run.Static

/-!
Attacks beside flows. An attack is resolved apart from the flows, and it does not ask for policies.
Still it meets the network that a flow between the same nodes meets: it is isolated if and only if the
flow is lost, it is stopped by a firewall if and only if that firewall is the one whose policy the
flow is held against, and else both pass.
-/

namespace NetworkTwin

namespace Graph

/-- The verdict stops the attack because there is no route to its target. -/
def Isolates (graph : Graph) (attack : AttackEvent) (verdict : Verdict) : Prop :=
  verdict = .stoppedBy Verdict.isolation ∧
    ∃ target, attack.target = some target ∧ graph.findPath attack.source target = none

/-- The verdict stops the attack by a firewall that lies on its route. -/
def Stops (graph : Graph) (attack : AttackEvent) (verdict : Verdict) (firewall : Node) : Prop :=
  verdict = .stoppedBy firewall.id ∧ firewall.isFirewall = true ∧
    ∃ target route, attack.target = some target ∧
      graph.findPath attack.source target = some route ∧ firewall.id ∈ route.path

end Graph

/-- The flow is held against the policy of the firewall: whatever a run has come to, this is the policy
that it turns to when it comes to the flow, and it turns to no other. -/
def Flow.HeldAgainst (config : Config) (graph : Graph) (flow : Flow) (firewall : Node) : Prop :=
  ∀ journal : Journal,
    (journal.resolveFlow config graph flow).2 = (journal.policyOf config firewall).2

/-- The outcome is the one that the policy of the firewall decides on. -/
def Config.Decides (config : Config) (graph : Graph) (flow : Flow) (firewall : Node)
    (outcome : FlowOutcome) : Prop :=
  let decision := (config.policyOf firewall).evaluate graph.tags flow.query
  (decision.allowed = true ∧ ∃ route, outcome = .delivered route true) ∨
    (decision.allowed = false ∧ outcome = .blocked firewall decision)

/-- What becomes of a flow and of an attack between the same nodes goes back to the same obstacle. -/
structure MeetAlike (config : Config) (graph : Graph) (flow : Flow) (outcome : FlowOutcome)
    (attack : AttackEvent) (verdict : Verdict) : Prop where
  free : verdict.blocked = false ↔ ∃ route, outcome = .delivered route false
  isolated : graph.Isolates attack verdict ↔ outcome = .unreachable
  guarded : ∀ firewall ∈ graph.nodes,
    graph.Stops attack verdict firewall ↔ flow.HeldAgainst config graph firewall
  decided : ∀ firewall ∈ graph.nodes, graph.Stops attack verdict firewall →
    config.Decides graph flow firewall outcome
  stopped : verdict.blocked = true →
    graph.Isolates attack verdict ∨ ∃ firewall ∈ graph.nodes, graph.Stops attack verdict firewall

namespace Journal

variable {config : Config} {graph : Graph} {flow : Flow}

theorem keys_policy_of_start (config : Config) (firewall : Node) (scenarioId : String)
    (now : Instant) :
    ((start scenarioId now).policyOf config firewall).2.policies.keys = [firewall.id] := rfl

theorem resolve_flow_of_no_route (noRoute : graph.findPath flow.source flow.destination = none)
    (journal : Journal) : journal.resolveFlow config graph flow = (.unreachable, journal) := by
  rw [resolveFlow, noRoute]

theorem resolve_flow_of_free {route : Route}
    (found : graph.findPath flow.source flow.destination = some route)
    (free : graph.firewallOn? route.path = none) (journal : Journal) :
    journal.resolveFlow config graph flow = (.delivered route false, journal) := by
  rw [resolveFlow, found]
  dsimp only
  rw [free]

theorem asked_of_guarded {route : Route} {guard : Node}
    (found : graph.findPath flow.source flow.destination = some route)
    (guarded : graph.firewallOn? route.path = some guard) :
    flow.HeldAgainst config graph guard := by
  intro journal
  unfold resolveFlow
  rw [found]
  dsimp only
  rw [guarded]
  dsimp only
  split <;> rfl

end Journal

namespace Flow

variable {config : Config} {graph : Graph} {flow : Flow}

theorem not_held_against (spared : ∀ journal : Journal,
      (journal.resolveFlow config graph flow).2 = journal) (firewall : Node) :
    ¬ flow.HeldAgainst config graph firewall := by
  intro held
  have start := held (.start "" .epoch)
  rw [spared] at start
  have keys := Journal.keys_policy_of_start config firewall "" .epoch
  rw [← start] at keys
  cases keys

theorem held_against_unique {first second : Node} (held : flow.HeldAgainst config graph first)
    (alsoHeld : flow.HeldAgainst config graph second) : first.id = second.id := by
  have same := (held (.start "" .epoch)).symm.trans (alsoHeld (.start "" .epoch))
  have keys := Journal.keys_policy_of_start config first "" .epoch
  rw [same, Journal.keys_policy_of_start] at keys
  exact (List.singleton_inj.1 keys).symm

end Flow

namespace Graph

variable {graph : Graph} {attack : AttackEvent} {target : String} {firewall : Node} {route : Route}
variable {verdict : Verdict}

theorem resolve_attack_without_target (untargeted : attack.target = none) :
    graph.resolveAttack attack = .succeeded := by
  rw [resolveAttack, untargeted]

theorem resolve_attack_of_no_route (aimed : attack.target = some target)
    (noRoute : graph.findPath attack.source target = none) :
    graph.resolveAttack attack = .stoppedBy Verdict.isolation := by
  rw [resolveAttack, aimed]
  dsimp only
  rw [noRoute]

theorem resolve_attack_of_free (aimed : attack.target = some target)
    (found : graph.findPath attack.source target = some route)
    (free : graph.firewallOn? route.path = none) : graph.resolveAttack attack = .succeeded := by
  rw [resolveAttack, aimed]
  dsimp only
  rw [found]
  dsimp only
  rw [free]

theorem resolve_attack_of_guarded (aimed : attack.target = some target)
    (found : graph.findPath attack.source target = some route)
    (guarded : graph.firewallOn? route.path = some firewall) :
    graph.resolveAttack attack = .stoppedBy firewall.id := by
  rw [resolveAttack, aimed]
  dsimp only
  rw [found]
  dsimp only
  rw [guarded]

theorem Isolates.no_route (isolates : graph.Isolates attack verdict)
    (aimed : attack.target = some target) : graph.findPath attack.source target = none := by
  obtain ⟨_, other, alsoAimed, noRoute⟩ := isolates
  rw [Option.some.inj (aimed.symm.trans alsoAimed)]
  exact noRoute

theorem Stops.on_route (stops : graph.Stops attack verdict firewall)
    (aimed : attack.target = some target) :
    ∃ route, graph.findPath attack.source target = some route ∧ firewall.id ∈ route.path := by
  obtain ⟨_, _, other, route, alsoAimed, found, member⟩ := stops
  rw [Option.some.inj (aimed.symm.trans alsoAimed)]
  exact ⟨route, found, member⟩

/-- A verdict names the firewall that stops the attack, so no other firewall does. -/
theorem Stops.unique (distinct : graph.nodeIds.Nodup) {other : Node}
    (declared : firewall ∈ graph.nodes) (otherDeclared : other ∈ graph.nodes)
    (stops : graph.Stops attack verdict firewall) (otherStops : graph.Stops attack verdict other) :
    firewall = other := by
  have named := stops.1.symm.trans otherStops.1
  exact eq_of_same_id distinct declared otherDeclared
    (Option.some.inj (congrArg Verdict.blockedBy named))

end Graph

namespace Config

variable {config : Config} {graph : Graph} {flow : Flow} {route : Route} {guard : Node}

theorem outcome_of_free (found : graph.findPath flow.source flow.destination = some route)
    (free : graph.firewallOn? route.path = none) :
    config.outcome graph flow = .delivered route false := by
  rw [outcome, found]
  dsimp only
  rw [free]

theorem decides_outcome (found : graph.findPath flow.source flow.destination = some route)
    (guarded : graph.firewallOn? route.path = some guard) :
    config.Decides graph flow guard (config.outcome graph flow) := by
  unfold Decides outcome
  rw [found]
  dsimp only
  rw [guarded]
  dsimp only
  cases ((config.policyOf guard).evaluate graph.tags flow.query).allowed <;> simp

end Config

namespace MeetAlike

variable {config : Config} {graph : Graph} {flow : Flow} {attack : AttackEvent} {route : Route}

/-! The three ways: no route, a route without firewalls, and a route with a first firewall. -/

theorem of_no_route (aimed : attack.target = some flow.destination)
    (attackFound : graph.findPath attack.source flow.destination = none)
    (flowFound : graph.findPath flow.source flow.destination = none) :
    MeetAlike config graph flow (config.outcome graph flow) attack (graph.resolveAttack attack) := by
  have verdict := Graph.resolve_attack_of_no_route aimed attackFound
  have lost : config.outcome graph flow = .unreachable :=
    Config.outcome_eq_unreachable_iff.2 flowFound
  have isolated : graph.Isolates attack (graph.resolveAttack attack) :=
    ⟨verdict, flow.destination, aimed, attackFound⟩
  have unstopped (firewall : Node) :
      ¬ graph.Stops attack (graph.resolveAttack attack) firewall := by
    intro stops
    obtain ⟨route, found, _⟩ := stops.on_route aimed
    rw [attackFound] at found
    cases found
  have spared (firewall : Node) : ¬ flow.HeldAgainst config graph firewall := by
    apply Flow.not_held_against
    intro journal
    rw [Journal.resolve_flow_of_no_route flowFound]
  constructor
  · simp [verdict, lost, Verdict.stoppedBy]
  · simp [isolated, lost]
  · intro firewall _
    exact iff_of_false (unstopped firewall) (spared firewall)
  · intro firewall _ stops
    exact absurd stops (unstopped firewall)
  · intro _
    exact Or.inl isolated

theorem of_free (aimed : attack.target = some flow.destination)
    (attackFound : graph.findPath attack.source flow.destination = some route)
    (flowFound : graph.findPath flow.source flow.destination = some route)
    (free : graph.firewallOn? route.path = none) :
    MeetAlike config graph flow (config.outcome graph flow) attack (graph.resolveAttack attack) := by
  have verdict := Graph.resolve_attack_of_free aimed attackFound free
  have arrived := config.outcome_of_free flowFound free
  have connected : ¬ graph.Isolates attack (graph.resolveAttack attack) := by
    intro isolates
    have noRoute := isolates.no_route aimed
    rw [attackFound] at noRoute
    cases noRoute
  have unstopped (firewall : Node) (declared : firewall ∈ graph.nodes) :
      ¬ graph.Stops attack (graph.resolveAttack attack) firewall := by
    intro stops
    obtain ⟨taken, found, member⟩ := stops.on_route aimed
    rw [attackFound] at found
    rw [← Option.some.inj found] at member
    exact Graph.firewall_on_eq_none_iff.1 free firewall declared stops.2.1 member
  have spared (firewall : Node) : ¬ flow.HeldAgainst config graph firewall := by
    apply Flow.not_held_against
    intro journal
    rw [Journal.resolve_flow_of_free flowFound free]
  constructor
  · simp [verdict, arrived, Verdict.succeeded]
  · exact iff_of_false connected (by simp [arrived])
  · intro firewall declared
    exact iff_of_false (unstopped firewall declared) (spared firewall)
  · intro firewall declared stops
    exact absurd stops (unstopped firewall declared)
  · intro blocked
    rw [verdict] at blocked
    cases blocked

theorem of_guarded (distinct : graph.nodeIds.Nodup) {guard : Node}
    (aimed : attack.target = some flow.destination)
    (attackFound : graph.findPath attack.source flow.destination = some route)
    (flowFound : graph.findPath flow.source flow.destination = some route)
    (guarded : graph.firewallOn? route.path = some guard) :
    MeetAlike config graph flow (config.outcome graph flow) attack (graph.resolveAttack attack) := by
  have verdict := Graph.resolve_attack_of_guarded aimed attackFound guarded
  have decides := config.decides_outcome flowFound guarded
  have declared : guard ∈ graph.nodes := Graph.mem_of_firewall_on guarded
  have first := Graph.first_of_firewall_on guarded
  have stops : graph.Stops attack (graph.resolveAttack attack) guard :=
    ⟨verdict, first.1, flow.destination, route, aimed, attackFound, first.2.1⟩
  have held : flow.HeldAgainst config graph guard := Journal.asked_of_guarded flowFound guarded
  have connected : ¬ graph.Isolates attack (graph.resolveAttack attack) := by
    intro isolates
    have noRoute := isolates.no_route aimed
    rw [attackFound] at noRoute
    cases noRoute
  constructor
  · rcases decides with ⟨_, _, delivered⟩ | ⟨_, blocked⟩
    · simp [verdict, delivered, Verdict.stoppedBy]
    · simp [verdict, blocked, Verdict.stoppedBy]
  · apply iff_of_false connected
    rw [Config.outcome_eq_unreachable_iff, flowFound]
    exact Option.some_ne_none route
  · intro firewall member
    constructor
    · intro stopsToo
      rw [stopsToo.unique distinct member declared stops]
      exact held
    · intro heldToo
      have sameId := Flow.held_against_unique heldToo held
      rw [Graph.eq_of_same_id distinct member declared sameId]
      exact stops
  · intro firewall member stopsToo
    rw [stopsToo.unique distinct member declared stops]
    exact decides
  · intro _
    exact Or.inr ⟨guard, declared, stops⟩

/-- An attack and a flow between the same nodes meet the same network. -/
theorem of_same_ends (config : Config) (distinct : graph.nodeIds.Nodup)
    (sameSource : attack.source = flow.source) (aimed : attack.target = some flow.destination) :
    MeetAlike config graph flow (config.outcome graph flow) attack (graph.resolveAttack attack) := by
  cases found : graph.findPath flow.source flow.destination with
  | none => exact of_no_route aimed (sameSource ▸ found) found
  | some route =>
      cases guarded : graph.firewallOn? route.path with
      | none => exact of_free aimed (sameSource ▸ found) found guarded
      | some guard => exact of_guarded distinct aimed (sameSource ▸ found) found guarded

end MeetAlike

/-- The result tells that this became of the flows and of the attacks, each in the order of the
scenario: of flows by events, counters and findings, of attacks by findings. -/
structure RunResult.TellsOf (result : RunResult) (scenario : Scenario)
    (outcomes : List FlowOutcome) (verdicts : List Verdict) : Prop where
  completed : result.status = .completed
  ofFlows : outcomes.length = scenario.flows.length
  ofAttacks : verdicts.length = scenario.attacks.length
  events : ∃ (injected : List Event) (blocks : List (List Event)) (tried : List Event),
    result.events = injected ++ blocks.flatten ++ tried ∧
      (∀ event ∈ injected ++ tried, event.flow = none) ∧
      List.Forall₂ (fun sent block => sent.1.Tells sent.2 block) (scenario.flows.zip outcomes)
        blocks
  counters : result.metrics.toCounters = outcomes.foldl Counters.enter .zero
  findings : ∃ warned exposed : List Observation, result.observed = warned ++
    ((scenario.flows.zip outcomes).filterMap (fun sent => sent.2.observation? sent.1) ++
      (scenario.attacks.zip verdicts).map fun tried => tried.2.observation tried.1) ++ exposed

namespace Config

theorem simulate_tells_of (config : Config) (span : Span) {graph : Graph} (scenario : Scenario)
    (valid : graph.validate.valid = true) :
    (config.simulate span graph scenario).TellsOf scenario
      (scenario.flows.map (config.outcome (graph.injectAll scenario.faults)))
      (scenario.attacks.map (graph.injectAll scenario.faults).resolveAttack) := by
  obtain ⟨completed, events, counters⟩ := config.simulate_eq span scenario valid
  constructor
  · exact completed
  · exact List.length_map _
  · exact List.length_map _
  · refine ⟨_, _, _, events, ?_, ?_⟩
    · intro event member
      rcases List.mem_append.1 member with injected | tried
      · obtain ⟨fault, _, rfl⟩ := List.mem_map.1 injected
        rfl
      · obtain ⟨attack, _, rfl⟩ := List.mem_map.1 tried
        rfl
    · rw [← List.map_prod_left_eq_zip, List.forall₂_map_left_iff]
      exact config.blocks_tell _ 0 scenario.flows
  · exact counters
  · refine ⟨graph.validate.warnings.map Issue.observation, graph.exposures, ?_⟩
    rw [config.simulate_observed span scenario valid, incidents, ← List.map_prod_left_eq_zip,
      ← List.map_prod_left_eq_zip, List.filterMap_map, List.map_map]
    rfl

/-- In a run on a valid topology every attack meets what every flow between the same nodes meets, and
no attack without a target is stopped. -/
theorem attacks_meet_flows (config : Config) (span : Span) (graph : Graph) (scenario : Scenario)
    (valid : graph.validate.valid = true) :
    ∃ (outcomes : List FlowOutcome) (verdicts : List Verdict),
      (config.simulate span graph scenario).TellsOf scenario outcomes verdicts ∧
      (∀ sent ∈ scenario.flows.zip outcomes, ∀ tried ∈ scenario.attacks.zip verdicts,
        tried.1.source = sent.1.source → tried.1.target = some sent.1.destination →
          MeetAlike config (graph.injectAll scenario.faults) sent.1 sent.2 tried.1 tried.2) ∧
      ∀ tried ∈ scenario.attacks.zip verdicts, tried.1.target = none → tried.2.blocked = false := by
  have distinct := Graph.nodup_inject_all (Graph.nodup_of_valid valid) scenario.faults
  refine ⟨_, _, config.simulate_tells_of span scenario valid, ?_, ?_⟩
  · rw [← List.map_prod_left_eq_zip, ← List.map_prod_left_eq_zip]
    intro sent sentMember tried triedMember sameSource aimed
    obtain ⟨flow, _, rfl⟩ := List.mem_map.1 sentMember
    obtain ⟨attack, _, rfl⟩ := List.mem_map.1 triedMember
    exact MeetAlike.of_same_ends config distinct sameSource aimed
  · rw [← List.map_prod_left_eq_zip]
    intro tried member untargeted
    obtain ⟨attack, _, rfl⟩ := List.mem_map.1 member
    exact congrArg Verdict.blocked (Graph.resolve_attack_without_target untargeted)

/-- At the office the scan of the database meets the firewall that the traffic from the internet to
the database is held against. -/
theorem attacks_meet_flows_office :
    let faulted := Sample.office.injectAll Sample.officeDay.faults
    Sample.office.validate.valid = true ∧ ∃ flow ∈ Sample.officeDay.flows,
      ∃ attack ∈ Sample.officeDay.attacks, ∃ outcome verdict,
        attack.source = flow.source ∧ attack.target = some flow.destination ∧
          MeetAlike default faulted flow outcome attack verdict := by
  have valid : Sample.office.validate.valid = true := by decide +kernel
  obtain ⟨outcomes, verdicts, tells, alike, _⟩ :=
    attacks_meet_flows default .epoch Sample.office Sample.officeDay valid
  have flowsLeft : 1 < (Sample.officeDay.flows.zip outcomes).length := by
    rw [List.length_zip, tells.ofFlows]
    decide
  have attacksLeft : 0 < (Sample.officeDay.attacks.zip verdicts).length := by
    rw [List.length_zip, tells.ofAttacks]
    decide
  have meet := alike _ (List.getElem_mem flowsLeft) _ (List.getElem_mem attacksLeft)
  rw [List.getElem_zip, List.getElem_zip] at meet
  exact ⟨valid, _, List.getElem_mem _, _, List.getElem_mem _, _, _, rfl, rfl, meet rfl rfl⟩

end Config

end NetworkTwin
