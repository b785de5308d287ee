import NetworkTwin.Proofs.Policy.Matching
import NetworkTwin.Proofs.Run.Chronicle

/-!
What firewalls let through. A flow whose route meets no firewall arrives without being looked at. Any
other flow is up to one firewall alone, the one that is declared first of those on the route: it
arrives if the first rule that applies to it in the policy of that firewall allows it, and is
blocked in every other case, also if no rule applies or the policy has none.
-/

namespace NetworkTwin

namespace Graph

/-- What a reference in a rule means: every node by the wildcard, a node by its id or by a tag that
it is declared with. -/
def Means (graph : Graph) (reference id : String) : Prop :=
  isAny reference = true ∨ reference = id ∨
    ∃ node ∈ graph.nodes, node.id = id ∧ reference ∈ node.tags

/-- The firewall is on the path, and none that is declared before it is. -/
def FirstFirewall (graph : Graph) (path : List String) (firewall : Node) : Prop :=
  firewall.isFirewall = true ∧ firewall.id ∈ path ∧
    ∃ earlier later, graph.nodes = earlier ++ firewall :: later ∧
      ∀ node ∈ earlier, node.isFirewall = true → node.id ∉ path

end Graph

/-- The text that the policy of a firewall is read from: a property of its own that is a text and
not empty, or else that of the settings. -/
def Config.Governs (config : Config) (firewall : Node) (text : String) : Prop :=
  (firewall.properties.get? "policy" = some (.text text) ∧ text ≠ "") ∨
    (text = config.defaultPolicy ∧
      ∀ own, firewall.properties.get? "policy" = some (.text own) → own = "")

structure Rule.AppliesTo (graph : Graph) (flow : Flow) (rule : Rule) : Prop where
  source : graph.Means rule.source flow.source
  destination : graph.Means rule.destination flow.destination
  protocol : ∀ wanted, rule.protocol = some wanted →
    isAny wanted = true ∨ Text.sameIgnoringCase flow.protocol wanted = true
  port : ∀ filter, rule.port = some filter → ∃ port low high, flow.port = some port ∧
    filter.bounds = .ok (low, high) ∧ low ≤ port ∧ port ≤ high

/-- A rule of the policy allows the flow, and no rule before it applies. -/
def Policy.Allows (graph : Graph) (flow : Flow) (policy : Policy) : Prop :=
  ∃ earlier rule later, policy.rules = earlier ++ rule :: later ∧ rule.action = .allow ∧
    rule.AppliesTo graph flow ∧ ∀ other ∈ earlier, ¬ other.AppliesTo graph flow

/-- What has to become of a flow: without a route it gets nowhere, a route without firewalls is
free, and on any other the first firewall decides. -/
def Config.Enforces (config : Config) (graph : Graph) (flow : Flow) (outcome : FlowOutcome) :
    Prop :=
  (graph.findPath flow.source flow.destination = none → outcome = .unreachable) ∧
  ∀ route, graph.findPath flow.source flow.destination = some route →
    ((∀ node ∈ graph.nodes, node.isFirewall = true → node.id ∉ route.path) ∧
      outcome = .delivered route false) ∨
    ∃ firewall text, graph.FirstFirewall route.path firewall ∧ config.Governs firewall text ∧
      (outcome = .delivered route true ↔ (Policy.parse text).Allows graph flow) ∧
      ((∃ decision, outcome = .blocked firewall decision) ↔
        ¬ (Policy.parse text).Allows graph flow)

namespace Graph

variable {graph : Graph}

theorem mem_tags_iff (distinct : graph.nodeIds.Nodup) {reference id : String} :
    reference ∈ (graph.tags.get? id).getD [] ↔
      ∃ node ∈ graph.nodes, node.id = id ∧ reference ∈ node.tags := by
  have tabled : graph.tags = Dictionary.ofList (graph.nodeIds.map fun id =>
      (id, ((graph.node? id).map Node.tags).getD [])) := by
    rw [tags, nodeIds, List.map_map]
    congr 1
    refine List.map_congr_left fun node declared => ?_
    rw [Function.comp_apply, node_of_mem distinct declared]
    rfl
  rw [tabled, Dictionary.get?_ofList_map]
  constructor
  · intro member
    split at member
    · rename_i declared
      obtain ⟨node, inGraph, rfl⟩ := List.mem_map.1 declared
      rw [node_of_mem distinct inGraph] at member
      exact ⟨node, inGraph, rfl, member⟩
    · cases member
  · rintro ⟨node, inGraph, rfl, member⟩
    have declared : node.id ∈ graph.nodeIds := List.mem_map_of_mem inGraph
    rw [if_pos declared, node_of_mem distinct inGraph]
    exact member

theorem refers_to_iff (distinct : graph.nodeIds.Nodup) {reference id : String} :
    graph.tags.refersTo reference id = true ↔ graph.Means reference id := by
  rw [TagMap.refers_to_iff, TagMap.names, List.mem_cons, TagMap.tagsOf, mem_tags_iff distinct]
  rfl

theorem firewall_on_eq_none_iff {path : List String} :
    graph.firewallOn? path = none ↔
      ∀ node ∈ graph.nodes, node.isFirewall = true → node.id ∉ path := by
  simp [firewallOn?, List.find?_eq_none]

theorem first_of_firewall_on {path : List String} {firewall : Node}
    (found : graph.firewallOn? path = some firewall) : graph.FirstFirewall path firewall := by
  obtain ⟨meets, earlier, later, split, before⟩ := List.find?_eq_some_iff_append.1 found
  rw [Bool.and_eq_true, List.contains_iff_mem] at meets
  refine ⟨meets.1, meets.2, earlier, later, split, fun node member isFirewall onPath => ?_⟩
  have passed := before node member
  rw [isFirewall, List.contains_iff_mem.2 onPath] at passed
  cases passed

theorem firewall_on_eq_some_iff {path : List String} {firewall : Node} :
    graph.firewallOn? path = some firewall ↔ graph.FirstFirewall path firewall := by
  constructor
  · exact first_of_firewall_on
  · rintro ⟨isFirewall, onPath, earlier, later, split, before⟩
    refine List.find?_eq_some_iff_append.2 ⟨?_, earlier, later, split, fun node member => ?_⟩
    · rw [isFirewall, List.contains_iff_mem.2 onPath]
      rfl
    · simpa [imp_iff_not_or] using before node member

end Graph

theorem Flow.goes_by_iff {flow : Flow} {name : String} :
    flow.query.GoesBy name ↔ Text.sameIgnoringCase flow.protocol name = true := by
  simp [Query.GoesBy, Flow.query]

theorem Rule.matches_iff {graph : Graph} (distinct : graph.nodeIds.Nodup) {flow : Flow}
    {rule : Rule} : rule.matches graph.tags flow.query = true ↔ rule.AppliesTo graph flow := by
  rw [Rule.matches, Bool.and_eq_true, Bool.and_eq_true, Bool.and_eq_true,
    Graph.refers_to_iff distinct, Graph.refers_to_iff distinct, covers_protocol_iff, covers_port_iff]
  simp only [Flow.goes_by_iff, PortFilter.admits_iff]
  constructor
  · rintro ⟨⟨⟨source, destination⟩, protocol⟩, port⟩
    refine ⟨source, destination, protocol, fun filter present => ?_⟩
    obtain ⟨port, same, low, high, bounds, between⟩ := port filter present
    exact ⟨port, low, high, same, bounds, between⟩
  · rintro ⟨source, destination, protocol, port⟩
    refine ⟨⟨⟨source, destination⟩, protocol⟩, fun filter present => ?_⟩
    obtain ⟨port, low, high, same, bounds, between⟩ := port filter present
    exact ⟨port, same, low, high, bounds, between⟩

theorem Policy.evaluate_allowed_iff {graph : Graph} (distinct : graph.nodeIds.Nodup) {flow : Flow}
    {policy : Policy} :
    (policy.evaluate graph.tags flow.query).allowed = true ↔ policy.Allows graph flow := by
  unfold evaluate
  constructor
  · intro allowed
    split at allowed
    · rename_i rule found
      obtain ⟨applies, earlier, later, split, passed⟩ := List.find?_eq_some_iff_append.1 found
      refine ⟨earlier, rule, later, split, beq_iff_eq.1 allowed,
        (Rule.matches_iff distinct).1 applies, fun other member othersApply => ?_⟩
      have notMatching := passed other member
      rw [(Rule.matches_iff distinct).2 othersApply] at notMatching
      cases notMatching
    · cases allowed
  · rintro ⟨earlier, rule, later, split, action, applies, passed⟩
    have found :
        (policy.rules.find? fun rule => rule.matches graph.tags flow.query) = some rule := by
      refine List.find?_eq_some_iff_append.2
        ⟨(Rule.matches_iff distinct).2 applies, earlier, later, split, fun other member => ?_⟩
      simpa [← Rule.matches_iff distinct] using passed other member
    rw [found]
    exact beq_iff_eq.2 action

namespace Config

theorem governs_policy_of (config : Config) (firewall : Node) :
    ∃ text, config.Governs firewall text ∧ config.policyOf firewall = Policy.parse text := by
  refine ⟨_, ?_, rfl⟩
  unfold Governs Node.ownPolicyText? Node.propertyText?
  cases property : firewall.properties.get? "policy" with
  | none => exact Or.inr ⟨rfl, fun _ own => (nomatch own)⟩
  | some value =>
      cases value with
      | text own =>
          by_cases empty : own = ""
          · subst empty
            exact Or.inr ⟨rfl, fun other same => by cases same; rfl⟩
          · have kept : (some own).filter (fun text => !text.isEmpty) = some own := by
              simp [empty]
            exact Or.inl ⟨by simp [Value.text?, kept], by simpa [Value.text?, kept] using empty⟩
      | _ => exact Or.inr ⟨rfl, fun _ own => (nomatch own)⟩

theorem enforces_outcome (config : Config) {graph : Graph} (distinct : graph.nodeIds.Nodup)
    (flow : Flow) : config.Enforces graph flow (config.outcome graph flow) := by
  refine ⟨fun lost => by rw [outcome, lost], fun route found => ?_⟩
  unfold outcome
  rw [found]
  dsimp only
  cases guarded : graph.firewallOn? route.path with
  | none => exact Or.inl ⟨Graph.firewall_on_eq_none_iff.1 guarded, rfl⟩
  | some firewall =>
      obtain ⟨text, governs, policy⟩ := config.governs_policy_of firewall
      refine Or.inr ⟨firewall, text, Graph.first_of_firewall_on guarded, governs, ?_⟩
      dsimp only
      rw [policy, ← Policy.evaluate_allowed_iff distinct]
      cases ((Policy.parse text).evaluate graph.tags flow.query).allowed <;> simp

/-- A run on a valid topology is completed. Every flow that has a route there after the faults
comes to the end that its firewall wants, and the events and the counters show that end. -/
theorem simulate_enforces (config : Config) (span : Span) (graph : Graph) (scenario : Scenario)
    (valid : graph.validate.valid = true) :
    (config.simulate span graph scenario).status = .completed ∧
    ∃ (outcomes : List FlowOutcome) (injected : List Event) (blocks : List (List Event))
        (tried : List Event),
      List.Forall₂ (config.Enforces (graph.injectAll scenario.faults)) scenario.flows outcomes ∧
      (config.simulate span graph scenario).events = injected ++ blocks.flatten ++ tried ∧
      (∀ event ∈ injected ++ tried, event.flow = none) ∧
      List.Forall₂ (fun sent block => sent.1.Tells sent.2 block) (scenario.flows.zip outcomes)
        blocks ∧
      (config.simulate span graph scenario).metrics.toCounters =
        outcomes.foldl Counters.enter .zero := by
  have distinct := Graph.nodup_inject_all (Graph.nodup_of_valid valid) scenario.faults
  obtain ⟨completed, events, counters⟩ := config.simulate_eq span scenario valid
  refine ⟨completed, scenario.flows.map (config.outcome (graph.injectAll scenario.faults)), _, _, _,
    ?_, events, ?_, ?_, counters⟩
  · rw [List.forall₂_map_right_iff, List.forall₂_same]
    exact fun flow _ => config.enforces_outcome distinct flow
  · intro event member
    rcases List.mem_append.1 member with injected | tried
    · obtain ⟨fault, _, rfl⟩ := List.mem_map.1 injected
      rfl
    · obtain ⟨attack, _, rfl⟩ := List.mem_map.1 tried
      rfl
  · rw [← List.map_prod_left_eq_zip, List.forall₂_map_left_iff]
    exact config.blocks_tell _ 0 scenario.flows

theorem simulate_enforces_office :
    Sample.office.validate.valid = true ∧
      ∃ outcomes : List FlowOutcome,
        List.Forall₂ (Config.default.Enforces (Sample.office.injectAll Sample.officeDay.faults))
          Sample.officeDay.flows outcomes ∧
        (Config.default.simulate .epoch Sample.office Sample.officeDay).metrics.toCounters =
          outcomes.foldl Counters.enter .zero := by
  have valid : Sample.office.validate.valid = true := by decide +kernel
  obtain ⟨_, outcomes, _, _, _, enforced, _, _, _, counters⟩ :=
    simulate_enforces Config.default .epoch Sample.office Sample.officeDay valid
  exact ⟨valid, outcomes, enforced, counters⟩

end Config

end NetworkTwin
