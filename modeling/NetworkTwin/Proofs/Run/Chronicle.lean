import NetworkTwin.Proofs.Run.Outcome
import NetworkTwin.Sample

/-!
The chronicle of a run: what its events are, from the first to the last. Each flow adds one block of
events, and the clock that stamps them depends on nothing but the number of packets that have been
seen before. A flow that does not arrive leaves the clock alone.
-/

namespace NetworkTwin

def clockAfter (step : UInt64) (packets : Nat) : UInt64 :=
  UInt64.ofNat (min (UInt64.size - 1) (step.toNat * packets))

theorem to_nat_clock_after (step : UInt64) (packets : Nat) :
    (clockAfter step packets).toNat = min (UInt64.size - 1) (step.toNat * packets) :=
  UInt64.toNat_ofNat_of_lt' (Nat.lt_of_le_of_lt (Nat.min_le_left _ _) (by decide))

/-- Standing still at the greatest time again and again is standing still once. -/
theorem advance_clock_after (step : UInt64) (packets : Nat) :
    advance step (clockAfter step packets) = clockAfter step (packets + 1) := by
  unfold advance
  rw [to_nat_clock_after, clockAfter, Nat.mul_succ]
  congr 1
  omega

theorem clock_after_mono (step : UInt64) {fewer more : Nat} (atMost : fewer ≤ more) :
    clockAfter step fewer ≤ clockAfter step more := by
  have product := Nat.mul_le_mul_left step.toNat atMost
  rw [UInt64.le_iff_toNat_le, to_nat_clock_after, to_nat_clock_after]
  omega

def packetsIn (events : List Event) : Nat := events.countP fun event => event.kind == .packetSent

theorem packets_in_append (first second : List Event) :
    packetsIn (first ++ second) = packetsIn first + packetsIn second :=
  List.countP_append

def FlowOutcome.packets : FlowOutcome → Nat
  | .delivered route _ => route.path.length
  | _ => 0

def Counters.enter (counters : Counters) : FlowOutcome → Counters
  | .unreachable => counters.dropPacket
  | .blocked _ _ => counters.evaluatePolicy.blockPolicy.dropPacket
  | .delivered _ true => counters.evaluatePolicy.processPacket
  | .delivered _ false => counters.processPacket

namespace Flow

def packetEvents (flow : Flow) (step : UInt64) : Nat → List String → List Event
  | _, [] => []
  | sent, node :: rest =>
      flow.packetEvent node (clockAfter step sent) :: flow.packetEvents step (sent + 1) rest

/-- The events of a flow after its start, if so many packets have been seen before. -/
def ending (flow : Flow) (step : UInt64) (sent : Nat) : FlowOutcome → List Event
  | .unreachable => [flow.dropEvent (clockAfter step sent)]
  | .blocked firewall decision => [flow.blockEvent firewall decision (clockAfter step sent)]
  | .delivered route _ =>
      flow.packetEvents step sent route.path ++
        [flow.endEvent (clockAfter step (sent + route.path.length))]

def block (flow : Flow) (step : UInt64) (sent : Nat) (outcome : FlowOutcome) : List Event :=
  flow.startEvent (clockAfter step sent) :: flow.ending step sent outcome

end Flow

def Config.blocks (config : Config) (graph : Graph) : Nat → List Flow → List (List Event)
  | _, [] => []
  | sent, flow :: rest =>
      let outcome := config.outcome graph flow
      flow.block config.timeStep sent outcome :: config.blocks graph (sent + outcome.packets) rest

namespace Journal

/-- What a journal holds after some events: the clock tells the packets among them, and the
policies are those that the settings give. -/
structure Records (config : Config) (graph : Graph) (journal : Journal) (events : List Event)
    (sent : Nat) (counters : Counters) : Prop where
  events : journal.events = events
  clock : journal.clock = clockAfter config.timeStep sent
  counters : journal.counters = counters
  remembers : journal.Remembers config graph

theorem records_start (config : Config) (graph : Graph) (scenarioId : String) (now : Instant) :
    (start scenarioId now).Records config graph [] 0 .zero :=
  ⟨rfl, rfl, rfl, remembers_start config graph scenarioId now⟩

namespace Records

variable {config : Config} {graph : Graph} {journal : Journal} {events : List Event} {sent : Nat}
  {counters : Counters}

theorem log (records : journal.Records config graph events sent counters) (event : Event) :
    (journal.log event).Records config graph (events ++ [event]) sent counters :=
  ⟨congrArg (· ++ [event]) records.events, records.clock, records.counters, records.remembers⟩

theorem count (records : journal.Records config graph events sent counters)
    (change : Counters → Counters) :
    (journal.count change).Records config graph events sent (change counters) :=
  ⟨records.events, records.clock, congrArg change records.counters, records.remembers⟩

theorem report (records : journal.Records config graph events sent counters)
    (observation : Observation) :
    (journal.report observation).Records config graph events sent counters :=
  ⟨records.events, records.clock, records.counters, records.remembers⟩

theorem send_packet (records : journal.Records config graph events sent counters) (flow : Flow)
    (node : String) :
    (journal.sendPacket config.timeStep flow node).Records config graph
      (events ++ [flow.packetEvent node (clockAfter config.timeStep sent)]) (sent + 1) counters := by
  have logged := records.log (flow.packetEvent node (clockAfter config.timeStep sent))
  rw [← records.clock] at logged ⊢
  refine ⟨logged.events, ?_, logged.counters, logged.remembers⟩
  rw [← advance_clock_after, ← records.clock]
  rfl

theorem send_packets (records : journal.Records config graph events sent counters) (flow : Flow)
    (path : List String) :
    (path.foldl (sendPacket config.timeStep flow) journal).Records config graph
      (events ++ flow.packetEvents config.timeStep sent path) (sent + path.length) counters := by
  induction path generalizing journal events sent with
  | nil =>
      rw [Flow.packetEvents, List.append_nil]
      exact records
  | cons node rest induction =>
      have later := induction (records.send_packet flow node)
      rw [List.append_assoc, Nat.add_assoc, Nat.add_comm 1] at later
      exact later

theorem conclude (records : journal.Records config graph events sent counters) (flow : Flow)
    (outcome : FlowOutcome) :
    (journal.conclude config.timeStep flow outcome).Records config graph
      (events ++ flow.ending config.timeStep sent outcome) (sent + outcome.packets)
      (counters.enter outcome) := by
  cases outcome with
  | unreachable =>
      unfold Journal.conclude
      rw [records.clock]
      exact ((records.log _).count .dropPacket).report _
  | blocked firewall decision =>
      have counted := ((records.count .evaluatePolicy).count .blockPolicy).count .dropPacket
      unfold Journal.conclude
      dsimp only
      rw [counted.clock]
      exact (counted.log _).report _
  | delivered route evaluated =>
      have counted : (if evaluated then journal.count .evaluatePolicy else journal).Records config
          graph events sent (if evaluated then counters.evaluatePolicy else counters) := by
        cases evaluated with
        | true => exact records.count .evaluatePolicy
        | false => exact records
      have passed := (counted.send_packets flow route.path).count .processPacket
      have ended := passed.log
        (flow.endEvent (clockAfter config.timeStep (sent + route.path.length)))
      rw [List.append_assoc] at ended
      unfold Journal.conclude
      dsimp only
      rw [passed.clock]
      cases evaluated <;> exact ended

theorem resolve_flow (records : journal.Records config graph events sent counters)
    (distinct : graph.nodeIds.Nodup) (flow : Flow) :
    ∃ asked, journal.resolveFlow config graph flow = (config.outcome graph flow, asked) ∧
      asked.Records config graph events sent counters := by
  obtain ⟨policies, resolved, remembers⟩ := records.remembers.resolve_flow_eq distinct flow
  exact ⟨_, resolved, records.events, records.clock, records.counters, remembers⟩

theorem send_flow (records : journal.Records config graph events sent counters)
    (distinct : graph.nodeIds.Nodup) (flow : Flow) :
    (journal.sendFlow config graph flow).Records config graph
      (events ++ flow.block config.timeStep sent (config.outcome graph flow))
      (sent + (config.outcome graph flow).packets)
      (counters.enter (config.outcome graph flow)) := by
  have started := records.log (flow.startEvent (clockAfter config.timeStep sent))
  obtain ⟨asked, resolved, still⟩ := started.resolve_flow distinct flow
  have concluded := still.conclude flow (config.outcome graph flow)
  rw [List.append_assoc] at concluded
  unfold sendFlow
  dsimp only
  rw [records.clock, resolved]
  exact concluded

theorem send_flows (records : journal.Records config graph events sent counters)
    (distinct : graph.nodeIds.Nodup) (flows : List Flow) :
    (flows.foldl (sendFlow config graph) journal).Records config graph
      (events ++ (config.blocks graph sent flows).flatten)
      ((flows.map (config.outcome graph)).foldl (fun sent outcome => sent + outcome.packets) sent)
      ((flows.map (config.outcome graph)).foldl .enter counters) := by
  induction flows generalizing journal events sent counters with
  | nil =>
      rw [Config.blocks, List.flatten_nil, List.append_nil]
      exact records
  | cons flow rest induction =>
      have later := induction (records.send_flow distinct flow)
      rw [List.append_assoc] at later
      exact later

theorem foldl {α : Type} (enter : Journal → α → Journal) (told : α → List Event)
    (each : ∀ {journal events} (item : α), journal.Records config graph events sent counters →
      (enter journal item).Records config graph (events ++ told item) sent counters)
    (records : journal.Records config graph events sent counters) (items : List α) :
    (items.foldl enter journal).Records config graph (events ++ items.flatMap told) sent
      counters := by
  induction items generalizing journal events with
  | nil =>
      rw [List.flatMap_nil, List.append_nil]
      exact records
  | cons item rest induction =>
      have later := induction (each item records)
      rw [List.append_assoc] at later
      exact later

theorem reports (records : journal.Records config graph events sent counters) {α : Type}
    (observe : α → Observation) (items : List α) :
    (items.foldl (fun journal item => journal.report (observe item)) journal).Records config graph
      events sent counters := by
  induction items generalizing journal with
  | nil => exact records
  | cons item rest induction => exact induction (records.report (observe item))

end Records

end Journal

namespace Config

theorem play_records (config : Config) (warnings : List Issue) {faulted : Graph}
    (distinct : faulted.nodeIds.Nodup) (scenario : Scenario) {journal : Journal}
    (started : journal.Records config faulted [] 0 .zero) :
    (config.play warnings faulted scenario journal).Records config faulted
      (scenario.faults.map Fault.event ++ (config.blocks faulted 0 scenario.flows).flatten ++
        scenario.attacks.map AttackEvent.event)
      ((scenario.flows.map (config.outcome faulted)).foldl
        (fun sent outcome => sent + outcome.packets) 0)
      ((scenario.flows.map (config.outcome faulted)).foldl .enter .zero) := by
  have warned := started.reports Issue.observation warnings
  have broken := warned.foldl (fun journal fault => journal.log fault.event)
    (fun fault => [fault.event]) (fun fault before => before.log fault.event) scenario.faults
  have sent := broken.send_flows distinct scenario.flows
  have attacked := sent.foldl (Journal.tryAttack faulted) (fun attack => [attack.event])
    (fun attack before => (before.log attack.event).report _) scenario.attacks
  have looked := attacked.reports id faulted.exposures
  rw [← List.map_eq_flatMap, ← List.map_eq_flatMap, List.nil_append] at looked
  exact looked

theorem valid_of_completed {config : Config} {span : Span} {graph : Graph} {scenario : Scenario}
    (completed : (config.simulate span graph scenario).status = .completed) :
    graph.validate.valid = true := by
  cases valid : graph.validate.valid with
  | true => rfl
  | false =>
      unfold simulate at completed
      dsimp only at completed
      rw [valid] at completed
      cases completed

/-- A run that can start is completed, and these are its events and its counters. -/
theorem simulate_eq (config : Config) (span : Span) {graph : Graph} (scenario : Scenario)
    (valid : graph.validate.valid = true) :
    let faulted := graph.injectAll scenario.faults
    (config.simulate span graph scenario).status = .completed ∧
      (config.simulate span graph scenario).events =
        scenario.faults.map Fault.event ++ (config.blocks faulted 0 scenario.flows).flatten ++
          scenario.attacks.map AttackEvent.event ∧
      (config.simulate span graph scenario).metrics.toCounters =
        (scenario.flows.map (config.outcome faulted)).foldl .enter .zero := by
  have distinct := Graph.nodup_inject_all (Graph.nodup_of_valid valid) scenario.faults
  have records := config.play_records graph.validate.warnings distinct scenario
    (Journal.records_start config _ scenario.id span.startedAt)
  unfold simulate
  dsimp only
  rw [if_pos valid]
  exact ⟨rfl, records.events, records.counters⟩

end Config

/-- What an event tells: its kind, and the node it is about. -/
def Event.mark (event : Event) : EventKind × Option String := (event.kind, event.node)

/-- Every event has the time that the packets before it make up, those seen earlier included. -/
def OnTime (step : UInt64) : Nat → List Event → Prop
  | _, [] => True
  | sent, event :: rest =>
      event.timestamp = clockAfter step sent ∧ OnTime step (sent + packetsIn [event]) rest

namespace OnTime

variable {step : UInt64} {sent : Nat} {events : List Event}

theorem append {more : List Event} (first : OnTime step sent events)
    (second : OnTime step (sent + packetsIn events) more) : OnTime step sent (events ++ more) := by
  induction events generalizing sent with
  | nil => exact second
  | cons event rest induction =>
      obtain ⟨here, later⟩ := first
      refine ⟨here, induction later ?_⟩
      rwa [Nat.add_assoc, ← packets_in_append]

theorem at_event (onTime : OnTime step sent events) {before after : List Event} {event : Event}
    (split : events = before ++ event :: after) :
    event.timestamp = clockAfter step (sent + packetsIn before) := by
  induction before generalizing sent events with
  | nil =>
      subst split
      exact onTime.1
  | cons first before induction =>
      subst split
      have found := induction onTime.2 rfl
      rwa [Nat.add_assoc, ← packets_in_append] at found

theorem at_least (onTime : OnTime step sent events) {event : Event} (member : event ∈ events) :
    clockAfter step sent ≤ event.timestamp := by
  obtain ⟨before, after, split⟩ := List.append_of_mem member
  rw [onTime.at_event split]
  exact clock_after_mono step (Nat.le_add_right sent _)

theorem never_decreases (onTime : OnTime step sent events) :
    (events.map (·.timestamp)).Pairwise (· ≤ ·) := by
  induction events generalizing sent with
  | nil => exact List.Pairwise.nil
  | cons event rest induction =>
      obtain ⟨here, later⟩ := onTime
      refine List.pairwise_cons.2 ⟨fun timestamp member => ?_, induction later⟩
      obtain ⟨other, inRest, rfl⟩ := List.mem_map.1 member
      change event.timestamp ≤ other.timestamp
      rw [here]
      have start := clock_after_mono step (Nat.le_add_right sent (packetsIn [event]))
      exact UInt64.le_trans start (later.at_least inRest)

end OnTime

/-- What the events of a flow tell of its outcome. -/
def FlowOutcome.marks : FlowOutcome → List (EventKind × Option String)
  | .unreachable => [(.flowStart, none), (.packetDropped, none)]
  | .blocked firewall _ => [(.flowStart, none), (.policyBlock, some firewall.id)]
  | .delivered route _ =>
      (.flowStart, none) :: route.path.map (fun node => (.packetSent, some node)) ++
        [(.flowEnd, none)]

namespace Flow

/-- The events are those of the flow, and they tell its outcome. -/
structure Tells (flow : Flow) (outcome : FlowOutcome) (events : List Event) : Prop where
  marks : events.map Event.mark = outcome.marks
  ofFlow : ∀ event ∈ events, event.flow = some flow.id

variable (flow : Flow) (step : UInt64) (sent : Nat)

theorem packet_events_on_time (path : List String) :
    OnTime step sent (flow.packetEvents step sent path) := by
  induction path generalizing sent with
  | nil => trivial
  | cons node rest induction => exact ⟨rfl, induction (sent + 1)⟩

theorem packets_in_packet_events (path : List String) :
    packetsIn (flow.packetEvents step sent path) = path.length := by
  induction path generalizing sent with
  | nil => rfl
  | cons node rest induction =>
      have first : packetsIn [flow.packetEvent node (clockAfter step sent)] = 1 := rfl
      rw [packetEvents, ← List.singleton_append, packets_in_append, first, induction,
        List.length_cons, Nat.add_comm]

theorem marks_packet_events (path : List String) :
    (flow.packetEvents step sent path).map Event.mark =
      path.map fun node => (.packetSent, some node) := by
  induction path generalizing sent with
  | nil => rfl
  | cons node rest induction =>
      rw [packetEvents, List.map_cons, induction]
      rfl

theorem flow_of_packet_event {path : List String} {event : Event}
    (member : event ∈ flow.packetEvents step sent path) : event.flow = some flow.id := by
  induction path generalizing sent with
  | nil => cases member
  | cons node rest induction =>
      rcases List.mem_cons.1 member with rfl | later
      · rfl
      · exact induction (sent + 1) later

theorem block_tells (outcome : FlowOutcome) :
    flow.Tells outcome (flow.block step sent outcome) := by
  cases outcome with
  | unreachable => exact ⟨rfl, by simp [block, ending, startEvent, dropEvent, Event.withFlow]⟩
  | blocked firewall decision =>
      exact ⟨rfl, by simp [block, ending, startEvent, blockEvent, Event.withFlow]⟩
  | delivered route evaluated =>
      constructor
      · rw [block, ending, List.map_cons, List.map_append, marks_packet_events]
        rfl
      · intro event member
        rcases List.mem_cons.1 member with rfl | later
        · rfl
        · rcases List.mem_append.1 later with packet | ended
          · exact flow.flow_of_packet_event step sent packet
          · obtain rfl := List.mem_singleton.1 ended
            rfl

theorem packets_in_block (outcome : FlowOutcome) :
    packetsIn (flow.block step sent outcome) = outcome.packets := by
  cases outcome with
  | unreachable => rfl
  | blocked firewall decision => rfl
  | delivered route evaluated =>
      have started : packetsIn [flow.startEvent (clockAfter step sent)] = 0 := rfl
      have ended (clock : UInt64) : packetsIn [flow.endEvent clock] = 0 := rfl
      rw [block, ending, ← List.singleton_append, packets_in_append, packets_in_append, started,
        ended, packets_in_packet_events, Nat.zero_add, Nat.add_zero]
      rfl

theorem block_on_time (outcome : FlowOutcome) :
    OnTime step sent (flow.block step sent outcome) := by
  refine ⟨rfl, ?_⟩
  change OnTime step sent (flow.ending step sent outcome)
  cases outcome with
  | unreachable => exact ⟨rfl, trivial⟩
  | blocked firewall decision => exact ⟨rfl, trivial⟩
  | delivered route evaluated =>
      refine (flow.packet_events_on_time step sent route.path).append ⟨?_, trivial⟩
      rw [packets_in_packet_events]
      rfl

end Flow

namespace Config

theorem blocks_tell (config : Config) (graph : Graph) (sent : Nat) (flows : List Flow) :
    List.Forall₂ (fun flow block => flow.Tells (config.outcome graph flow) block) flows
      (config.blocks graph sent flows) := by
  induction flows generalizing sent with
  | nil => exact .nil
  | cons flow rest induction => exact .cons (flow.block_tells _ sent _) (induction _)

theorem blocks_on_time (config : Config) (graph : Graph) (sent : Nat) (flows : List Flow) :
    OnTime config.timeStep sent (config.blocks graph sent flows).flatten := by
  induction flows generalizing sent with
  | nil => trivial
  | cons flow rest induction =>
      refine (flow.block_on_time _ sent _).append ?_
      rw [Flow.packets_in_block]
      exact induction _

end Config

/-- The events are one block for the flow: it starts, and it is dropped for want of a route, or
blocked by a firewall, or seen at every node of its route and ended. -/
structure Flow.IsBlock (graph : Graph) (flow : Flow) (events : List Event) : Prop where
  ofFlow : ∀ event ∈ events, event.flow = some flow.id
  form :
    (graph.findPath flow.source flow.destination = none ∧
      events.map Event.mark = [(.flowStart, none), (.packetDropped, none)]) ∨
    (∃ route firewall, graph.findPath flow.source flow.destination = some route ∧
      graph.firewallOn? route.path = some firewall ∧
      events.map Event.mark = [(.flowStart, none), (.policyBlock, some firewall.id)]) ∨
    ∃ route, graph.findPath flow.source flow.destination = some route ∧
      events.map Event.mark =
        (.flowStart, none) :: route.path.map (fun node => (.packetSent, some node)) ++
          [(.flowEnd, none)]

theorem Flow.Tells.is_block {config : Config} {graph : Graph} {flow : Flow} {events : List Event}
    (tells : flow.Tells (config.outcome graph flow) events) : flow.IsBlock graph events := by
  refine ⟨tells.ofFlow, ?_⟩
  have marks := tells.marks
  unfold Config.outcome at marks
  cases found : graph.findPath flow.source flow.destination with
  | none =>
      rw [found] at marks
      exact Or.inl ⟨rfl, marks⟩
  | some route =>
      rw [found] at marks
      dsimp only at marks
      cases guarded : graph.firewallOn? route.path with
      | none =>
          rw [guarded] at marks
          exact Or.inr (Or.inr ⟨route, rfl, marks⟩)
      | some firewall =>
          rw [guarded] at marks
          dsimp only at marks
          split at marks
          · exact Or.inr (Or.inr ⟨route, rfl, marks⟩)
          · exact Or.inr (Or.inl ⟨route, firewall, rfl, guarded, marks⟩)

namespace Config

/-- The events of a completed run: the faults, one block for each flow, the attacks. The clock of
the flows tells how many packets have been seen, as far as 64 bits hold their time. -/
theorem simulate_chronicle (config : Config) (span : Span) (graph : Graph) (scenario : Scenario)
    (completed : (config.simulate span graph scenario).status = .completed) :
    ∃ (injected : List Event) (blocks : List (List Event)) (tried : List Event),
      (config.simulate span graph scenario).events = injected ++ blocks.flatten ++ tried ∧
      injected.map (fun event => (event.kind, event.timestamp)) =
        scenario.faults.map (fun fault => (.faultInjected, fault.startTime)) ∧
      List.Forall₂ (Flow.IsBlock (graph.injectAll scenario.faults)) scenario.flows blocks ∧
      tried.map (fun event => (event.kind, event.timestamp)) =
        scenario.attacks.map (fun attack => (.attackEvent, attack.timestamp)) ∧
      (∀ before event after, blocks.flatten = before ++ event :: after →
        event.timestamp.toNat =
          min (UInt64.size - 1) (config.timeStep.toNat * packetsIn (injected ++ before))) ∧
      (blocks.flatten.map (·.timestamp)).Pairwise (· ≤ ·) := by
  have told := (config.simulate_eq span scenario (valid_of_completed completed)).2.1
  have onTime := config.blocks_on_time (graph.injectAll scenario.faults) 0 scenario.flows
  refine ⟨_, _, _, told, ?_, ?_, ?_, ?_, onTime.never_decreases⟩
  · rw [List.map_map]
    rfl
  · exact (config.blocks_tell _ 0 scenario.flows).imp fun _ _ => Flow.Tells.is_block
  · rw [List.map_map]
    rfl
  · intro before event after split
    have noPackets : packetsIn (scenario.faults.map Fault.event) = 0 := by
      rw [packetsIn, List.countP_map]
      exact List.countP_eq_zero.2 fun fault _ => by simp [Fault.event, Event.plain]
    rw [onTime.at_event split, to_nat_clock_after, packets_in_append, noPackets]

theorem simulate_chronicle_office :
    (Config.default.simulate .epoch Sample.office Sample.officeDay).status = .completed ∧
      ∃ (injected : List Event) (blocks : List (List Event)) (tried : List Event),
        (Config.default.simulate .epoch Sample.office Sample.officeDay).events =
          injected ++ blocks.flatten ++ tried ∧ blocks.length = 4 := by
  have completed :
      (Config.default.simulate .epoch Sample.office Sample.officeDay).status = .completed := by
    decide +kernel
  obtain ⟨injected, blocks, tried, told, _, forms, _⟩ :=
    simulate_chronicle Config.default .epoch Sample.office Sample.officeDay completed
  exact ⟨completed, injected, blocks, tried, told, forms.length_eq.symm⟩

end Config

end NetworkTwin
