import NetworkTwin.Proofs.Routing.Closed
import NetworkTwin.Proofs.Routing.Tables
import NetworkTwin.Proofs.Run.Chronicle

/-!
The events of the flows beside the metrics. Flows are sent over routes that are found one at a time,
and the table of what reaches what is made after them from searches of its own. Both look at the
topology after the faults, and they agree: a flow between declared nodes is dropped if and only if
the table knows of no way. A flow that arrives has taken a route with the fewest hops.
-/

namespace NetworkTwin

def kindsOf (events : List Event) : List EventKind := events.map (·.kind)

def packetsOf (events : List Event) : List Event := events.filter (·.kind == .packetSent)

namespace Flow.Tells

variable {flow : Flow} {outcome : FlowOutcome} {events : List Event}

theorem kinds_eq (tells : flow.Tells outcome events) :
    kindsOf events = outcome.marks.map Prod.fst := by
  rw [← tells.marks, List.map_map]
  rfl

theorem starts (tells : flow.Tells outcome events) :
    ∃ rest, kindsOf events = .flowStart :: rest ∧ .flowStart ∉ rest := by
  rw [tells.kinds_eq]
  cases outcome <;> exact ⟨_, rfl, by simp⟩

theorem drops_iff (tells : flow.Tells outcome events) :
    .packetDropped ∈ kindsOf events ↔ outcome = .unreachable := by
  rw [tells.kinds_eq]
  cases outcome <;> simp [FlowOutcome.marks]

/-- Only a flow that is delivered comes to an end, and its packets name the nodes of the route. -/
theorem delivered_of_end (tells : flow.Tells outcome events)
    (ended : (kindsOf events).getLast? = some .flowEnd) :
    ∃ route evaluated, outcome = .delivered route evaluated ∧
      (packetsOf events).map (·.node) = route.path.map some := by
  rw [tells.kinds_eq] at ended
  cases outcome with
  | unreachable => simp [FlowOutcome.marks] at ended
  | blocked firewall decision => simp [FlowOutcome.marks] at ended
  | delivered route evaluated =>
      refine ⟨route, evaluated, rfl, ?_⟩
      have nodes : (packetsOf events).map (·.node) =
          ((events.map Event.mark).filter (·.1 == .packetSent)).map Prod.snd := by
        rw [List.filter_map, List.map_map]
        rfl
      rw [nodes, tells.marks]
      simp [FlowOutcome.marks, List.filter_map, Function.comp_def]

end Flow.Tells

/-- What the events of a flow have to do with the topology, the faults, and the table of what
reaches what. -/
structure Flow.Agrees (graph : Graph) (faults : List Fault) (reachability : Matrix Bool)
    (flow : Flow) (events : List Event) : Prop where
  ofFlow : ∀ event ∈ events, event.flow = some flow.id
  starts : ∃ rest, kindsOf events = .flowStart :: rest ∧ .flowStart ∉ rest
  dropped : graph.declares flow.source = true → graph.declares flow.destination = true →
    (.packetDropped ∈ kindsOf events ↔
      (reachability.get? flow.source).bind (·.get? flow.destination) = some false)
  arrived : (kindsOf events).getLast? = some .flowEnd → ∃ route,
    (graph.injectAll faults).FewestHops flow.source flow.destination route ∧
      (packetsOf events).map (·.node) = route.path.map some ∧
      (packetsOf events).length = route.hops + 1
  lost : flow.source ≠ flow.destination →
    (graph.declares flow.source = false ∨ graph.declares flow.destination = false) →
      kindsOf events = [.flowStart, .packetDropped]

theorem Flow.Tells.agrees {config : Config} {graph : Graph} {faults : List Fault} {flow : Flow}
    {events : List Event} (closed : graph.Closed)
    (tells : flow.Tells (config.outcome (graph.injectAll faults) flow) events) :
    flow.Agrees graph faults (graph.injectAll faults).reachability events := by
  have faultedClosed := closed.inject_all faults
  constructor
  · exact tells.ofFlow
  · exact tells.starts
  · intro sourceDeclared targetDeclared
    rw [tells.drops_iff, Config.outcome_eq_unreachable_iff, Graph.reachability_eq_false_iff]
    · rwa [Graph.declares_inject_all]
    · rwa [Graph.declares_inject_all]
  · intro ended
    obtain ⟨route, evaluated, delivered, named⟩ := tells.delivered_of_end ended
    have fewest := faultedClosed.fewest_hops (Config.route_of_outcome_delivered delivered)
    obtain ⟨places, walk⟩ := fewest.walked
    refine ⟨route, fewest, named, ?_⟩
    have counted := congrArg List.length named
    rw [List.length_map, List.length_map] at counted
    rw [counted, walk.path_length_eq_hops]
  · intro different undeclared
    have noRoute := faultedClosed.find_path_eq_none different (by simpa using undeclared)
    rw [tells.kinds_eq, Config.outcome_eq_unreachable_iff.2 noRoute]
    rfl

namespace Config

theorem simulate_reachability (config : Config) (span : Span) {graph : Graph}
    (scenario : Scenario) (valid : graph.validate.valid = true) :
    (config.simulate span graph scenario).metrics.reachability =
      (graph.injectAll scenario.faults).reachability := by
  unfold simulate
  dsimp only
  rw [if_pos valid]
  rfl

/-- Of a completed run, the events of every flow agree with the metrics. -/
theorem simulate_agrees (config : Config) (span : Span) (graph : Graph) (scenario : Scenario)
    (completed : (config.simulate span graph scenario).status = .completed) :
    ∃ (injected : List Event) (blocks : List (List Event)) (tried : List Event),
      (config.simulate span graph scenario).events = injected ++ blocks.flatten ++ tried ∧
      (∀ event ∈ injected ++ tried, event.flow = none) ∧
      List.Forall₂ (Flow.Agrees graph scenario.faults
        (config.simulate span graph scenario).metrics.reachability) scenario.flows blocks := by
  have valid := valid_of_completed completed
  have told := (config.simulate_eq span scenario valid).2.1
  refine ⟨_, _, _, told, ?_, ?_⟩
  · intro event member
    rcases List.mem_append.1 member with injected | tried
    · obtain ⟨fault, _, rfl⟩ := List.mem_map.1 injected
      rfl
    · obtain ⟨attack, _, rfl⟩ := List.mem_map.1 tried
      rfl
  · rw [config.simulate_reachability span scenario valid]
    have blocks := config.blocks_tell (graph.injectAll scenario.faults) 0 scenario.flows
    exact blocks.imp fun flow events tells => tells.agrees (Graph.closed_of_valid valid)

/-- At the office the kiosk is cut off, and the events and the metrics both say so. -/
theorem simulate_agrees_office :
    let result := Config.default.simulate .epoch Sample.office Sample.officeDay
    result.status = .completed ∧ ∃ blocks,
      List.Forall₂ (Flow.Agrees Sample.office Sample.officeDay.faults result.metrics.reachability)
        Sample.officeDay.flows blocks ∧
      (result.metrics.reachability.get? "kiosk").bind (·.get? "web1") = some false ∧
      ∃ block ∈ blocks, .packetDropped ∈ kindsOf block := by
  have completed :
      (Config.default.simulate .epoch Sample.office Sample.officeDay).status = .completed := by
    decide +kernel
  have denied : ((Config.default.simulate .epoch Sample.office
      Sample.officeDay).metrics.reachability.get? "kiosk").bind (·.get? "web1") = some false := by
    decide +kernel
  obtain ⟨_, blocks, _, _, _, agree⟩ :=
    simulate_agrees Config.default .epoch Sample.office Sample.officeDay completed
  refine ⟨completed, blocks, agree, denied, ?_⟩
  cases agree with
  | cons _ agree => cases agree with
    | cons _ agree => cases agree with
      | cons _ agree => cases agree with
        | cons kiosk _ => exact ⟨_, by simp, (kiosk.dropped rfl rfl).2 denied⟩

end Config

end NetworkTwin
