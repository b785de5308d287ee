import NetworkTwin.Proofs.Run.Assembly
import NetworkTwin.Proofs.Run.Independence
import NetworkTwin.Sample

/-!
What each of the settings can change. The time step moves the events of flows in time, the node that
is asked for decides about the blast radius, and the default policy speaks for firewalls that carry
no policy of their own. Nothing else of a run depends on them.
-/

namespace NetworkTwin

/-- The event, without its time if it is one of a flow. -/
def Event.besideFlowTime (event : Event) : Event :=
  if event.flow.isSome then event.untimed else event

namespace RunResult

def besideFlowTimes (result : RunResult) : RunResult :=
  { result with events := result.events.map Event.besideFlowTime }

def besideBlastRadius (result : RunResult) : RunResult := { result with blastRadius := none }

end RunResult

/-- Every firewall carries a policy of its own: a text that is not empty. -/
def Graph.BringsPolicies (graph : Graph) : Prop :=
  ∀ node ∈ graph.nodes, node.isFirewall = true →
    ∃ text, node.properties.get? "policy" = some (.text text) ∧ text ≠ ""

namespace Config

theorem flow_of_mem_blocks (config : Config) (graph : Graph) (sent : Nat) (flows : List Flow)
    {event : Event} (member : event ∈ (config.blocks graph sent flows).flatten) :
    event.flow.isSome = true := by
  have tells := config.blocks_tell graph sent flows
  generalize config.blocks graph sent flows = blocks at tells member
  induction tells with
  | nil => cases member
  | cons first rest induction =>
      rcases List.mem_append.1 member with here | later
      · rw [first.ofFlow event here]
        rfl
      · exact induction later

theorem beside_flow_time_blocks (config : Config) (graph : Graph) (sent : Nat)
    (flows : List Flow) :
    (config.blocks graph sent flows).flatten.map Event.besideFlowTime =
      flows.flatMap fun flow => flow.told (config.outcome graph flow) := by
  rw [← config.untimed_blocks graph sent flows]
  apply List.map_congr_left
  intro event member
  exact if_pos (config.flow_of_mem_blocks graph sent flows member)

theorem policy_of_eq_own (config : Config) {firewall : Node} {text : String}
    (carries : firewall.properties.get? "policy" = some (.text text)) (speaks : text ≠ "") :
    config.policyOf firewall = Policy.parse text := by
  have own : firewall.ownPolicyText? = some text := by
    simp [Node.ownPolicyText?, Node.propertyText?, carries, Value.text?, speaks]
  rw [policyOf, own, Option.getD_some]

section

variable (first second : Config) {graph : Graph}
  (alike : ∀ firewall ∈ graph.nodes, firewall.isFirewall = true →
    first.policyOf firewall = second.policyOf firewall)

include alike

theorem outcome_eq_of_policies (flow : Flow) :
    first.outcome graph flow = second.outcome graph flow := by
  unfold outcome
  cases graph.findPath flow.source flow.destination with
  | none => rfl
  | some route =>
      dsimp only
      cases found : graph.firewallOn? route.path with
      | none => rfl
      | some firewall =>
          have guards : firewall.isFirewall = true := by
            have onPath := List.find?_some found
            exact (Bool.and_eq_true_iff.1 onPath).1
          dsimp only
          rw [alike firewall (Graph.mem_of_firewall_on found) guards]

theorem blocks_eq_of_policies (sameStep : first.timeStep = second.timeStep) (sent : Nat)
    (flows : List Flow) : first.blocks graph sent flows = second.blocks graph sent flows := by
  induction flows generalizing sent with
  | nil => rfl
  | cons flow rest induction =>
      simp only [blocks, outcome_eq_of_policies first second alike, sameStep, induction]

/-- Besides the blast radius, a run asks its settings for the time step and for the policies of
firewalls. -/
theorem completion_eq_of_policies (sameStep : first.timeStep = second.timeStep) (span : Span)
    (scenario : Scenario) :
    first.completion span graph scenario =
      { second.completion span graph scenario with
        blastRadius := first.blastReport? (graph.injectAll scenario.faults) } := by
  rw [← Graph.nodes_inject_all graph scenario.faults] at alike
  have outcomes := funext (outcome_eq_of_policies first second alike)
  have blocks := blocks_eq_of_policies first second alike sameStep 0 scenario.flows
  simp only [completion, observations, outcomes, blocks]

end

variable (config : Config) (span : Span) (graph : Graph) (scenario : Scenario)

theorem completion_with_time_step (step : UInt64) :
    ((config.withTimeStep step).completion span graph scenario).besideFlowTimes =
      (config.completion span graph scenario).besideFlowTimes := by
  simp only [completion, RunResult.besideFlowTimes, List.map_append, beside_flow_time_blocks]
  rfl

theorem completion_with_blast_node (node : Option String) :
    ({ config with blastNode := node }.completion span graph scenario).besideBlastRadius =
      (config.completion span graph scenario).besideBlastRadius := by
  rw [completion_eq_of_policies { config with blastNode := node } config (fun _ _ _ => rfl) rfl]
  rfl

theorem completion_with_default_policy (brings : graph.BringsPolicies) (policy : String) :
    (config.withDefaultPolicy policy).completion span graph scenario =
      config.completion span graph scenario := by
  have alike : ∀ firewall ∈ graph.nodes, firewall.isFirewall = true →
      (config.withDefaultPolicy policy).policyOf firewall = config.policyOf firewall := by
    intro firewall declared guards
    obtain ⟨text, carries, speaks⟩ := brings firewall declared guards
    rw [policy_of_eq_own _ carries speaks, policy_of_eq_own _ carries speaks]
  rw [completion_eq_of_policies _ config alike rfl]
  rfl

/-- The time step matters to nothing but the times of the events of flows, and the node that is
asked for to nothing but the blast radius. The default policy matters to nothing if no firewall
needs it. -/
theorem simulate_settings :
    (∀ step, ((config.withTimeStep step).simulate span graph scenario).besideFlowTimes =
      (config.simulate span graph scenario).besideFlowTimes) ∧
    (∀ node, ({ config with blastNode := node }.simulate span graph scenario).besideBlastRadius =
      (config.simulate span graph scenario).besideBlastRadius) ∧
    (graph.BringsPolicies → ∀ policy,
      (config.withDefaultPolicy policy).simulate span graph scenario =
        config.simulate span graph scenario) := by
  cases valid : graph.validate.valid with
  | false =>
      have failed (settings : Config) := settings.simulate_eq_failure span scenario valid
      simp only [failed, implies_true, and_self]
  | true =>
      simp only [simulate_eq_completion _ span scenario valid]
      exact ⟨config.completion_with_time_step span graph scenario,
        config.completion_with_blast_node span graph scenario,
        config.completion_with_default_policy span graph scenario⟩

/-- The firewall of the office has a policy, so that it does not matter what the default is. Slower
packets arrive later, and this is all that they do. -/
theorem simulate_settings_office :
    let result := default.simulate .epoch Sample.office Sample.officeDay
    let slow := (default.withTimeStep 25).simulate .epoch Sample.office Sample.officeDay
    Sample.office.BringsPolicies ∧
      (default.withDefaultPolicy "allow any from Any to Any").simulate .epoch Sample.office
        Sample.officeDay = result ∧
      slow.besideFlowTimes = result.besideFlowTimes ∧
      result.events.map (·.timestamp) ≠ slow.events.map (·.timestamp) := by
  have brings : Sample.office.BringsPolicies := by
    intro node declared guards
    refine ⟨Sample.officePolicy, ?_, by decide⟩
    simp only [Sample.office, Graph.addNode, Graph.addLink, Graph.empty, List.nil_append,
      List.cons_append, List.mem_cons, List.not_mem_nil, or_false] at declared
    rcases declared with rfl | rfl | rfl | rfl | rfl | rfl | rfl | rfl
    all_goals first | rfl | cases guards
  obtain ⟨steps, _, policies⟩ := simulate_settings default .epoch Sample.office Sample.officeDay
  exact ⟨brings, policies brings _, steps 25, by decide +kernel⟩

end Config

end NetworkTwin
