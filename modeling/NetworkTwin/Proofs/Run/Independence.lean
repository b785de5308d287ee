import NetworkTwin.Proofs.Run.Reports

/-!
Flows do not get in each other's way. What a flow adds to a run, times and identifiers aside, is its
own share: it depends on the settings, the topology and the faults, and neither on the other flows
nor on the attacks. A run is made of such shares, so that its counters are the same in whichever order
the flows are sent, and add up if the flows of one scenario follow those of another.
-/

namespace NetworkTwin

def Event.untimed (event : Event) : Event := { event with timestamp := 0 }

def Finding.unstamped (finding : Finding) : Finding :=
  { finding with id := "", createdAt := .epoch }

/-- What any run records of an observation, but for the identifier and the time. -/
def Observation.unstamped (observation : Observation) : Finding :=
  (observation.record "" .epoch 0).unstamped

theorem unstamped_record (observation : Observation) (run : String) (now : Instant)
    (place : Nat) : (observation.record run now place).unstamped = observation.unstamped := by
  simp only [Observation.unstamped, Finding.unstamped, Observation.record]

theorem unstamped_record_all (run : String) (now : Instant) (observations : List Observation) :
    (recordAll run now observations).map Finding.unstamped =
      observations.map Observation.unstamped := by
  apply List.ext_getElem?
  intro place
  simp [recordAll, unstamped_record, Function.comp_def]

namespace Counters

def add (left right : Counters) : Counters where
  packetsProcessed := left.packetsProcessed + right.packetsProcessed
  packetsDropped := left.packetsDropped + right.packetsDropped
  policiesEvaluated := left.policiesEvaluated + right.policiesEvaluated
  policiesBlocked := left.policiesBlocked + right.policiesBlocked

def total (all : List Counters) : Counters := all.foldr add zero

@[simp] theorem zero_add (counters : Counters) : zero.add counters = counters := by
  simp [add, zero]

@[simp] theorem add_zero (counters : Counters) : counters.add zero = counters := by
  simp [add, zero]

theorem add_assoc (first second third : Counters) :
    (first.add second).add third = first.add (second.add third) := by
  simp [add, UInt64.add_assoc]

theorem add_comm (first second : Counters) : first.add second = second.add first := by
  simp only [add, mk.injEq]
  exact ⟨UInt64.add_comm .., UInt64.add_comm .., UInt64.add_comm .., UInt64.add_comm ..⟩

theorem total_append (first second : List Counters) :
    total (first ++ second) = (total first).add (total second) := by
  induction first with
  | nil => exact (zero_add _).symm
  | cons counters rest induction =>
      change counters.add (total (rest ++ second)) = _
      rw [induction, ← add_assoc]
      rfl

theorem total_perm {first second : List Counters} (permuted : first.Perm second) :
    total first = total second := by
  apply permuted.foldr_eq'
  intro left _ right _ counters
  rw [← add_assoc, ← add_assoc, add_comm left]

theorem enter_eq_add (counters : Counters) (outcome : FlowOutcome) :
    counters.enter outcome = counters.add (zero.enter outcome) := by
  cases outcome with
  | unreachable => simp [enter, add, zero, dropPacket]
  | blocked firewall decision => simp [enter, add, zero, evaluatePolicy, blockPolicy, dropPacket]
  | delivered route evaluated =>
      cases evaluated <;> simp [enter, add, zero, evaluatePolicy, processPacket]

theorem foldl_enter (counters : Counters) (outcomes : List FlowOutcome) :
    outcomes.foldl enter counters = counters.add (total (outcomes.map zero.enter)) := by
  induction outcomes generalizing counters with
  | nil => exact (add_zero counters).symm
  | cons outcome rest induction =>
      rw [List.foldl_cons, induction, enter_eq_add, add_assoc]
      rfl

end Counters

namespace Flow

theorem untimed_packet_events (flow : Flow) (step : UInt64) (sent : Nat) (path : List String) :
    (flow.packetEvents step sent path).map Event.untimed =
      path.map fun node => flow.packetEvent node 0 := by
  induction path generalizing sent with
  | nil => rfl
  | cons node rest induction =>
      rw [packetEvents, List.map_cons, induction]
      rfl

/-- The events of a flow, times aside. -/
def told (flow : Flow) : FlowOutcome → List Event
  | .unreachable => [flow.startEvent 0, flow.dropEvent 0]
  | .blocked firewall decision => [flow.startEvent 0, flow.blockEvent firewall decision 0]
  | .delivered route _ =>
      flow.startEvent 0 :: route.path.map (fun node => flow.packetEvent node 0) ++ [flow.endEvent 0]

theorem untimed_block (flow : Flow) (step : UInt64) (sent : Nat) (outcome : FlowOutcome) :
    (flow.block step sent outcome).map Event.untimed = flow.told outcome := by
  cases outcome with
  | unreachable => rfl
  | blocked firewall decision => rfl
  | delivered route evaluated =>
      rw [block, ending, List.map_cons, List.map_append, untimed_packet_events]
      rfl

end Flow

theorem Config.untimed_blocks (config : Config) (graph : Graph) (sent : Nat) (flows : List Flow) :
    (config.blocks graph sent flows).flatten.map Event.untimed =
      flows.flatMap fun flow => flow.told (config.outcome graph flow) := by
  induction flows generalizing sent with
  | nil => rfl
  | cons flow rest induction =>
      rw [blocks, List.flatten_cons, List.map_append, Flow.untimed_block, induction]
      rfl

/-- What a flow adds to a run, times and identifiers aside: its events, what it counts for, and
perhaps a finding. -/
structure FlowShare where
  events : List Event
  counters : Counters
  finding : Option Finding

/-- What a run is made of, times and identifiers aside. -/
structure Shares where
  injected : List Event
  warned : List Finding
  ofFlow : Flow → FlowShare
  ofAttack : AttackEvent → Event × Finding
  exposed : List Finding

/-- The result is made of the shares of what is in the scenario, in the order of the scenario. -/
structure RunResult.MadeOf (result : RunResult) (shares : Shares) (scenario : Scenario) :
    Prop where
  completed : result.status = .completed
  events : result.events.map Event.untimed =
    shares.injected ++ scenario.flows.flatMap (fun flow => (shares.ofFlow flow).events) ++
      scenario.attacks.map fun attack => (shares.ofAttack attack).1
  counters : result.metrics.toCounters =
    Counters.total (scenario.flows.map fun flow => (shares.ofFlow flow).counters)
  findings : result.findings.map Finding.unstamped =
    shares.warned ++ scenario.flows.filterMap (fun flow => (shares.ofFlow flow).finding) ++
      scenario.attacks.map (fun attack => (shares.ofAttack attack).2) ++ shares.exposed

namespace Config

/-- The share of a flow on a topology that has suffered its faults. -/
def shareOf (config : Config) (graph : Graph) (flow : Flow) : FlowShare where
  events := flow.told (config.outcome graph flow)
  counters := Counters.zero.enter (config.outcome graph flow)
  finding := ((config.outcome graph flow).observation? flow).map Observation.unstamped

/-- The shares that are the same in all runs with the same settings, topology and faults. -/
def sharesOf (config : Config) (graph : Graph) (faults : List Fault) : Shares where
  injected := faults.map fun fault => fault.event.untimed
  warned := graph.validate.warnings.map fun issue => issue.observation.unstamped
  ofFlow := config.shareOf (graph.injectAll faults)
  ofAttack attack := (attack.event.untimed,
    (((graph.injectAll faults).resolveAttack attack).observation attack).unstamped)
  exposed := (graph.injectAll faults).exposures.map Observation.unstamped

theorem simulate_made_of (config : Config) (span : Span) {graph : Graph} (scenario : Scenario)
    (valid : graph.validate.valid = true) :
    (config.simulate span graph scenario).MadeOf (config.sharesOf graph scenario.faults)
      scenario := by
  obtain ⟨completed, events, counters⟩ := config.simulate_eq span scenario valid
  constructor
  · exact completed
  · rw [events, List.map_append, List.map_append, untimed_blocks, List.map_map, List.map_map]
    rfl
  · rw [counters, Counters.foldl_enter, Counters.zero_add, List.map_map]
    rfl
  · rw [config.findings_simulate span scenario valid, unstamped_record_all]
    simp [observations, sharesOf, shareOf, List.map_filterMap, Function.comp_def]

/-- On a valid topology and with given faults, every flow has its share of a run, whatever the other
flows and the attacks are. So neither the order of the flows nor how they are spread over scenarios
matters to the counters. -/
theorem simulate_independent (config : Config) (graph : Graph) (faults : List Fault)
    (valid : graph.validate.valid = true) :
    (∀ span scenario, scenario.faults = faults →
      (config.simulate span graph scenario).MadeOf (config.sharesOf graph faults) scenario) ∧
    (∀ span later first second, first.faults = faults → second.faults = faults →
      first.flows.Perm second.flows →
        (config.simulate span graph first).metrics.toCounters =
          (config.simulate later graph second).metrics.toCounters) ∧
    ∀ span earlier later all first second, all.faults = faults → first.faults = faults →
      second.faults = faults → all.flows = first.flows ++ second.flows →
        (config.simulate span graph all).metrics.toCounters =
          (config.simulate earlier graph first).metrics.toCounters.add
            (config.simulate later graph second).metrics.toCounters := by
  have made (span : Span) (scenario : Scenario) (same : scenario.faults = faults) :
      (config.simulate span graph scenario).MadeOf (config.sharesOf graph faults) scenario := by
    rw [← same]
    exact config.simulate_made_of span scenario valid
  refine ⟨made, ?_, ?_⟩
  · intro span later first second ofFirst ofSecond permuted
    rw [(made span first ofFirst).counters, (made later second ofSecond).counters]
    exact Counters.total_perm (permuted.map _)
  · intro span earlier later all first second ofAll ofFirst ofSecond follows
    rw [(made span all ofAll).counters, (made earlier first ofFirst).counters,
      (made later second ofSecond).counters, follows, List.map_append, Counters.total_append]

theorem simulate_independent_office :
    let shares := default.sharesOf Sample.office Sample.officeDay.faults
    let backwards := { Sample.officeDay with flows := Sample.officeDay.flows.reverse }
    Sample.office.validate.valid = true ∧
      (default.simulate .epoch Sample.office Sample.officeDay).MadeOf shares Sample.officeDay ∧
      (default.simulate .epoch Sample.office backwards).MadeOf shares backwards ∧
      (default.simulate .epoch Sample.office Sample.officeDay).metrics.toCounters =
        (default.simulate .epoch Sample.office backwards).metrics.toCounters := by
  have valid : Sample.office.validate.valid = true := by decide +kernel
  obtain ⟨made, inAnyOrder, _⟩ :=
    simulate_independent default Sample.office Sample.officeDay.faults valid
  refine ⟨valid, made _ _ rfl, made _ _ rfl, ?_⟩
  exact inAnyOrder _ _ _ _ rfl rfl (List.reverse_perm _).symm

end Config

end NetworkTwin
