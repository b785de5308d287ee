import Mathlib.Data.List.Nodup
import NetworkTwin.Proofs.Faults.Strike
import NetworkTwin.Proofs.Topology.Validity
import NetworkTwin.Run.Simulation

/-!
What becomes of a flow, apart from what the run has come to. A run reads the policy of a firewall
once and keeps it by the id of the firewall. On a topology whose ids are distinct it never takes the
policy of one firewall for that of another, so that every flow comes to the end that the topology,
the settings and the flow alone determine.
-/

namespace NetworkTwin

namespace Graph

theorem eq_of_same_id {graph : Graph} (distinct : graph.nodeIds.Nodup) {left right : Node}
    (leftDeclared : left ∈ graph.nodes) (rightDeclared : right ∈ graph.nodes)
    (same : left.id = right.id) : left = right :=
  List.inj_on_of_nodup_map distinct leftDeclared rightDeclared same

theorem nodup_inject_all {graph : Graph} (distinct : graph.nodeIds.Nodup) (faults : List Fault) :
    (graph.injectAll faults).nodeIds.Nodup := by
  rwa [nodeIds, nodes_inject_all]

theorem mem_of_firewall_on {graph : Graph} {path : List String} {firewall : Node}
    (found : graph.firewallOn? path = some firewall) : firewall ∈ graph.nodes :=
  List.mem_of_find?_eq_some found

end Graph

/-- What becomes of a flow by the policies that the settings give to the firewalls. -/
def Config.outcome (config : Config) (graph : Graph) (flow : Flow) : FlowOutcome :=
  match graph.findPath flow.source flow.destination with
  | none => .unreachable
  | some route =>
      match graph.firewallOn? route.path with
      | none => .delivered route false
      | some firewall =>
          let decision := (config.policyOf firewall).evaluate graph.tags flow.query
          if decision.allowed then .delivered route true else .blocked firewall decision

namespace Config

variable {config : Config} {graph : Graph} {flow : Flow}

theorem outcome_cases (config : Config) (graph : Graph) (flow : Flow) :
    (graph.findPath flow.source flow.destination = none ∧
      config.outcome graph flow = .unreachable) ∨
    ∃ route, graph.findPath flow.source flow.destination = some route ∧
      ((graph.firewallOn? route.path = none ∧
          config.outcome graph flow = .delivered route false) ∨
        ∃ firewall, graph.firewallOn? route.path = some firewall ∧
          (config.outcome graph flow = .delivered route true ∨
            ∃ decision, config.outcome graph flow = .blocked firewall decision)) := by
  unfold outcome
  cases graph.findPath flow.source flow.destination with
  | none => exact Or.inl ⟨rfl, rfl⟩
  | some route =>
      refine Or.inr ⟨route, rfl, ?_⟩
      dsimp only
      cases graph.firewallOn? route.path with
      | none => exact Or.inl ⟨rfl, rfl⟩
      | some firewall =>
          refine Or.inr ⟨firewall, rfl, ?_⟩
          dsimp only
          split
          · exact Or.inl rfl
          · exact Or.inr ⟨_, rfl⟩

theorem outcome_eq_unreachable_iff :
    config.outcome graph flow = .unreachable ↔
      graph.findPath flow.source flow.destination = none := by
  rcases config.outcome_cases graph flow with
    ⟨noRoute, lost⟩ | ⟨route, found, ⟨_, free⟩ | ⟨_, _, allowed | ⟨_, blocked⟩⟩⟩
  · simp [noRoute, lost]
  · simp [found, free]
  · simp [found, allowed]
  · simp [found, blocked]

theorem route_of_outcome_delivered {route : Route} {evaluated : Bool}
    (delivered : config.outcome graph flow = .delivered route evaluated) :
    graph.findPath flow.source flow.destination = some route := by
  rcases config.outcome_cases graph flow with
    ⟨_, lost⟩ | ⟨taken, found, ⟨_, free⟩ | ⟨_, _, allowed | ⟨_, blocked⟩⟩⟩
  · cases delivered.symm.trans lost
  · cases delivered.symm.trans free
    exact found
  · cases delivered.symm.trans allowed
    exact found
  · cases delivered.symm.trans blocked

end Config

namespace Journal

/-- The policies that have been read are those of the firewalls they are kept for. -/
def Remembers (config : Config) (graph : Graph) (journal : Journal) : Prop :=
  ∀ firewall ∈ graph.nodes, ∀ policy, journal.policies.get? firewall.id = some policy →
    policy = config.policyOf firewall

variable {config : Config} {graph : Graph} {journal : Journal}

theorem remembers_start (config : Config) (graph : Graph) (scenarioId : String) (now : Instant) :
    (start scenarioId now).Remembers config graph :=
  fun _ _ _ known => (nomatch known)

/-- A firewall is asked for its own policy, whatever has been remembered, and nothing but what is
remembered of policies changes. -/
theorem Remembers.policy_of_eq (remembers : journal.Remembers config graph)
    (distinct : graph.nodeIds.Nodup) {firewall : Node} (declared : firewall ∈ graph.nodes) :
    ∃ policies, journal.policyOf config firewall =
        (config.policyOf firewall, { journal with policies := policies }) ∧
      Remembers config graph { journal with policies := policies } := by
  unfold policyOf
  cases known : journal.policies.get? firewall.id with
  | some policy =>
      obtain rfl := remembers firewall declared policy known
      exact ⟨journal.policies, rfl, remembers⟩
  | none =>
      refine ⟨journal.policies.insert firewall.id (config.policyOf firewall), rfl, ?_⟩
      intro other otherDeclared policy found
      rw [Dictionary.get?_insert] at found
      split at found
      · -- What is new is kept under an id that no other firewall has.
        rename_i same
        obtain rfl := Graph.eq_of_same_id distinct otherDeclared declared same
        exact (Option.some.inj found).symm
      · exact remembers other otherDeclared policy found

theorem Remembers.resolve_flow_eq (remembers : journal.Remembers config graph)
    (distinct : graph.nodeIds.Nodup) (flow : Flow) :
    ∃ policies, journal.resolveFlow config graph flow =
        (config.outcome graph flow, { journal with policies := policies }) ∧
      Remembers config graph { journal with policies := policies } := by
  unfold resolveFlow Config.outcome
  cases graph.findPath flow.source flow.destination with
  | none => exact ⟨journal.policies, rfl, remembers⟩
  | some route =>
      dsimp only
      cases found : graph.firewallOn? route.path with
      | none => exact ⟨journal.policies, rfl, remembers⟩
      | some firewall =>
          obtain ⟨policies, asked, still⟩ :=
            remembers.policy_of_eq distinct (Graph.mem_of_firewall_on found)
          refine ⟨policies, ?_, still⟩
          dsimp only
          rw [asked]
          split <;> rfl

end Journal

end NetworkTwin
