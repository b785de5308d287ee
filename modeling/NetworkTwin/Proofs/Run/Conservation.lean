import NetworkTwin.Run.Simulation
import NetworkTwin.Sample

/-!
What a run adds up to. The counters, the events and the findings of a run are entered separately,
and a flow can end in four ways. All of them still tell the same numbers: those of a tally that is
kept beside the journal and that only knows how many flows ended in which way.
-/

namespace NetworkTwin

/-- The findings that tell about the flows and the attacks of a run. -/
inductive Topic where
  | unreachable
  | blocked
  | attack
deriving DecidableEq

/-- Whether a finding with a title is on the topic. -/
def Topic.covers (title : String) : Topic → Bool
  | .unreachable => title == "Unreachable Destination"
  | .blocked => title == "Traffic Blocked by Policy"
  | .attack => "Attack Event: ".toList.isPrefixOf title.toList

namespace Topic

theorem covers_unreachable (flow : Flow) (topic : Topic) :
    topic.covers flow.unreachable.title = true ↔ topic = .unreachable := by
  change topic.covers "Unreachable Destination" = true ↔ topic = .unreachable
  cases topic <;> decide +kernel

theorem covers_blocked (flow : Flow) (firewall : Node) (decision : Decision) (topic : Topic) :
    topic.covers (flow.blocked firewall decision).title = true ↔ topic = .blocked := by
  change topic.covers "Traffic Blocked by Policy" = true ↔ topic = .blocked
  cases topic <;> decide +kernel

theorem covers_attack (verdict : Verdict) (attack : AttackEvent) (topic : Topic) :
    topic.covers (verdict.observation attack).title = true ↔ topic = .attack := by
  have title : (verdict.observation attack).title = "Attack Event: " ++ attack.kind.name := by
    unfold Verdict.observation
    cases verdict.obstacle? <;> rfl
  rw [title]
  cases topic with
  | unreachable => cases attack.kind <;> decide +kernel
  | blocked => cases attack.kind <;> decide +kernel
  | attack => simp [covers, String.toList_append]

theorem covers_warning (issue : Issue) (topic : Topic) :
    topic.covers issue.observation.title = false := by
  change topic.covers "Topology Warning" = false
  cases topic <;> decide +kernel

theorem covers_exposure {graph : Graph} {observation : Observation}
    (exposed : observation ∈ graph.exposures) (topic : Topic) :
    topic.covers observation.title = false := by
  obtain ⟨node, _, member⟩ := List.mem_flatMap.1 exposed
  rcases List.mem_append.1 member with encryption | guest
  · rw [Option.mem_toList, Node.encryptionCheck] at encryption
    split at encryption
    · obtain rfl := Option.some.inj encryption
      change topic.covers "Public Service Without TLS" = false
      cases topic <;> decide +kernel
    · simp at encryption
  · rw [Option.mem_toList, Graph.guestCheck] at guest
    split at guest
    · obtain rfl := Option.some.inj guest
      change topic.covers "Admin Interface Accessible from Guest Network" = false
      cases topic <;> decide +kernel
    · simp at guest

end Topic

/-- The numbers that the four counters of a run stand for. -/
structure Totals where
  processed : Nat
  dropped : Nat
  evaluated : Nat
  blocked : Nat

def Totals.counters (totals : Totals) : Counters :=
  { packetsProcessed := .ofNat totals.processed
    packetsDropped := .ofNat totals.dropped
    policiesEvaluated := .ofNat totals.evaluated
    policiesBlocked := .ofNat totals.blocked }

def Counters.totals (counters : Counters) : Totals :=
  { processed := counters.packetsProcessed.toNat
    dropped := counters.packetsDropped.toNat
    evaluated := counters.policiesEvaluated.toNat
    blocked := counters.policiesBlocked.toNat }

theorem Totals.totals_counters {totals : Totals} (processed : totals.processed < UInt64.size)
    (dropped : totals.dropped < UInt64.size) (evaluated : totals.evaluated < UInt64.size)
    (blocked : totals.blocked < UInt64.size) : totals.counters.totals = totals := by
  rw [Counters.totals, counters, UInt64.toNat_ofNat_of_lt' processed,
    UInt64.toNat_ofNat_of_lt' dropped, UInt64.toNat_ofNat_of_lt' evaluated,
    UInt64.toNat_ofNat_of_lt' blocked]

/-- How many flows started and how many of them came to which end, with or without a firewall on
the way, and how much else a run has entered into its journal. -/
structure Tally where
  starts : Nat
  unguarded : Nat
  allowed : Nat
  blocked : Nat
  unreachable : Nat
  packets : Nat
  faults : Nat
  attacks : Nat

namespace Tally

def zero : Tally := ⟨0, 0, 0, 0, 0, 0, 0, 0⟩

def processed (tally : Tally) : Nat := tally.unguarded + tally.allowed

def dropped (tally : Tally) : Nat := tally.blocked + tally.unreachable

def evaluated (tally : Tally) : Nat := tally.allowed + tally.blocked

/-- The tally after a flow that has started has come to its end. -/
def enter (tally : Tally) : FlowOutcome → Tally
  | .unreachable => { tally with unreachable := tally.unreachable + 1 }
  | .blocked _ _ => { tally with blocked := tally.blocked + 1 }
  | .delivered route true =>
      { tally with
        allowed := tally.allowed + 1
        packets := tally.packets + route.path.length }
  | .delivered route false =>
      { tally with
        unguarded := tally.unguarded + 1
        packets := tally.packets + route.path.length }

def totals (tally : Tally) : Totals :=
  ⟨tally.processed, tally.dropped, tally.evaluated, tally.blocked⟩

def eventsOf (tally : Tally) : EventKind → Nat
  | .flowStart => tally.starts
  | .flowEnd => tally.processed
  | .packetSent => tally.packets
  | .packetReceived => 0
  | .packetDropped => tally.unreachable
  | .faultInjected => tally.faults
  | .faultResolved => 0
  | .policyBlock => tally.blocked
  | .attackEvent => tally.attacks

def findingsOn (tally : Tally) : Topic → Nat
  | .unreachable => tally.unreachable
  | .blocked => tally.blocked
  | .attack => tally.attacks

/-- Every flow that has started has come to an end. -/
def Closed (tally : Tally) : Prop := tally.processed + tally.dropped = tally.starts

theorem closed_enter {tally : Tally} (closed : tally.Closed) (outcome : FlowOutcome) :
    ({ tally with starts := tally.starts + 1 }.enter outcome).Closed := by
  unfold Closed processed dropped at closed
  cases outcome with
  | unreachable =>
      simp only [Closed, enter, processed, dropped]
      omega
  | blocked firewall decision =>
      simp only [Closed, enter, processed, dropped]
      omega
  | delivered route evaluated =>
      cases evaluated <;> simp only [Closed, enter, processed, dropped] <;> omega

@[simp] theorem starts_enter (tally : Tally) (outcome : FlowOutcome) :
    (tally.enter outcome).starts = tally.starts := by
  unfold enter
  split <;> rfl

@[simp] theorem faults_enter (tally : Tally) (outcome : FlowOutcome) :
    (tally.enter outcome).faults = tally.faults := by
  unfold enter
  split <;> rfl

@[simp] theorem attacks_enter (tally : Tally) (outcome : FlowOutcome) :
    (tally.enter outcome).attacks = tally.attacks := by
  unfold enter
  split <;> rfl

theorem counters_enter_unreachable (tally : Tally) :
    (tally.enter .unreachable).totals.counters = tally.totals.counters.dropPacket := by
  simp only [totals, Totals.counters, enter, Counters.dropPacket, processed, dropped, evaluated,
    UInt64.ofNat_add]
  ac_rfl

theorem counters_enter_blocked (tally : Tally) (firewall : Node) (decision : Decision) :
    (tally.enter (.blocked firewall decision)).totals.counters =
      tally.totals.counters.evaluatePolicy.blockPolicy.dropPacket := by
  simp only [totals, Totals.counters, enter, Counters.evaluatePolicy, Counters.blockPolicy,
    Counters.dropPacket, processed, dropped, evaluated, UInt64.ofNat_add]
  ac_rfl

theorem counters_enter_allowed (tally : Tally) (route : Route) :
    (tally.enter (.delivered route true)).totals.counters =
      tally.totals.counters.evaluatePolicy.processPacket := by
  simp only [totals, Totals.counters, enter, Counters.evaluatePolicy, Counters.processPacket,
    processed, dropped, evaluated, UInt64.ofNat_add]
  ac_rfl

theorem counters_enter_unguarded (tally : Tally) (route : Route) :
    (tally.enter (.delivered route false)).totals.counters =
      tally.totals.counters.processPacket := by
  simp only [totals, Totals.counters, enter, Counters.processPacket, processed, dropped, evaluated,
    UInt64.ofNat_add]
  ac_rfl

theorem events_of_enter_delivered (tally : Tally) (route : Route) (evaluated : Bool)
    (kind : EventKind) :
    (tally.enter (.delivered route evaluated)).eventsOf kind =
      tally.eventsOf kind + (if .packetSent = kind then route.path.length else 0) +
        if .flowEnd = kind then 1 else 0 := by
  cases evaluated <;> cases kind <;> simp [enter, eventsOf, processed] <;> omega

end Tally

namespace Journal

def countEvents (journal : Journal) (kind : EventKind) : Nat :=
  journal.events.countP fun event => event.kind == kind

def countFindings (journal : Journal) (topic : Topic) : Nat :=
  journal.findings.countP fun finding => topic.covers finding.title

theorem count_events_log (journal : Journal) (event : Event) (kind : EventKind) :
    (journal.log event).countEvents kind =
      journal.countEvents kind + if event.kind = kind then 1 else 0 := by
  simp [countEvents, log, List.countP_append, List.countP_singleton]

theorem count_findings_report (journal : Journal) (observation : Observation) (topic : Topic) :
    (journal.report observation).countFindings topic =
      journal.countFindings topic + if topic.covers observation.title then 1 else 0 := by
  simp [countFindings, report, List.countP_append, List.countP_singleton, Observation.record]

@[simp] theorem count_events_report (journal : Journal) (observation : Observation)
    (kind : EventKind) :
    (journal.report observation).countEvents kind = journal.countEvents kind := rfl

@[simp] theorem count_events_count (journal : Journal) (change : Counters → Counters)
    (kind : EventKind) : (journal.count change).countEvents kind = journal.countEvents kind := rfl

@[simp] theorem count_findings_log (journal : Journal) (event : Event) (topic : Topic) :
    (journal.log event).countFindings topic = journal.countFindings topic := rfl

@[simp] theorem count_findings_count (journal : Journal) (change : Counters → Counters)
    (topic : Topic) : (journal.count change).countFindings topic = journal.countFindings topic :=
  rfl

theorem send_packets_counts (step : UInt64) (flow : Flow) (path : List String)
    (journal : Journal) :
    (path.foldl (sendPacket step flow) journal).counters = journal.counters ∧
      (path.foldl (sendPacket step flow) journal).findings = journal.findings ∧
      ∀ kind, (path.foldl (sendPacket step flow) journal).countEvents kind =
        journal.countEvents kind + if .packetSent = kind then path.length else 0 := by
  induction path generalizing journal with
  | nil => simp
  | cons node rest induction =>
      obtain ⟨counters, findings, events⟩ := induction (sendPacket step flow journal node)
      refine ⟨counters, findings, fun kind => ?_⟩
      have sent : (sendPacket step flow journal node).countEvents kind =
          journal.countEvents kind + if .packetSent = kind then 1 else 0 :=
        count_events_log journal (flow.packetEvent node journal.clock) kind
      rw [List.foldl_cons, events, sent, List.length_cons]
      split <;> omega

/-- What the counters, the events and the findings tell is the tally. -/
structure AddsUp (journal : Journal) (tally : Tally) : Prop where
  counters : journal.counters = tally.totals.counters
  events : ∀ kind, journal.countEvents kind = tally.eventsOf kind
  findings : ∀ topic, journal.countFindings topic = tally.findingsOn topic

theorem adds_up_start (scenarioId : String) (now : Instant) :
    (start scenarioId now).AddsUp .zero := by
  constructor
  · rfl
  · intro kind
    cases kind <;> rfl
  · intro topic
    cases topic <;> rfl

namespace AddsUp

variable {journal : Journal} {tally : Tally}

theorem report_aside (sums : journal.AddsUp tally) {observation : Observation}
    (aside : ∀ topic, Topic.covers observation.title topic = false) :
    (journal.report observation).AddsUp tally := by
  refine ⟨sums.counters, sums.events, fun topic => ?_⟩
  rw [count_findings_report, sums.findings topic, aside topic]
  rfl

theorem log_start (sums : journal.AddsUp tally) (flow : Flow) (clock : UInt64) :
    (journal.log (flow.startEvent clock)).AddsUp { tally with starts := tally.starts + 1 } := by
  refine ⟨sums.counters, fun kind => ?_, sums.findings⟩
  rw [count_events_log, sums.events kind]
  cases kind <;> rfl

theorem log_fault (sums : journal.AddsUp tally) (fault : Fault) :
    (journal.log fault.event).AddsUp { tally with faults := tally.faults + 1 } := by
  refine ⟨sums.counters, fun kind => ?_, sums.findings⟩
  rw [count_events_log, sums.events kind]
  cases kind <;> rfl

theorem try_attack (sums : journal.AddsUp tally) (graph : Graph) (attack : AttackEvent) :
    (journal.tryAttack graph attack).AddsUp { tally with attacks := tally.attacks + 1 } := by
  refine ⟨sums.counters, fun kind => ?_, fun topic => ?_⟩
  · rw [tryAttack, count_events_report, count_events_log, sums.events kind]
    cases kind <;> rfl
  · rw [tryAttack, count_findings_report, count_findings_log, sums.findings topic]
    simp only [Topic.covers_attack]
    cases topic <;> rfl

theorem policy_of (sums : journal.AddsUp tally) {config : Config} {firewall : Node} :
    (journal.policyOf config firewall).2.AddsUp tally := by
  unfold policyOf
  cases journal.policies.get? firewall.id with
  | none => exact ⟨sums.counters, sums.events, sums.findings⟩
  | some policy => exact sums

theorem resolve (sums : journal.AddsUp tally) (config : Config) (graph : Graph) (flow : Flow) :
    (journal.resolveFlow config graph flow).2.AddsUp tally := by
  unfold resolveFlow
  cases graph.findPath flow.source flow.destination with
  | none => exact sums
  | some route =>
      simp only
      cases graph.firewallOn? route.path with
      | none => exact sums
      | some firewall =>
          have asked : (journal.policyOf config firewall).2.AddsUp tally := sums.policy_of
          simp only
          split
          · exact asked
          · exact asked

theorem conclude_unreachable (sums : journal.AddsUp tally) (step : UInt64) (flow : Flow) :
    (journal.conclude step flow .unreachable).AddsUp (tally.enter .unreachable) := by
  refine ⟨?_, fun kind => ?_, fun topic => ?_⟩
  · change journal.counters.dropPacket = _
    rw [sums.counters, tally.counters_enter_unreachable]
  · simp only [Journal.conclude, count_events_report, count_events_count, count_events_log,
      sums.events kind]
    cases kind <;> rfl
  · simp only [Journal.conclude, count_findings_report, count_findings_count, count_findings_log,
      sums.findings topic, Topic.covers_unreachable]
    cases topic <;> rfl

theorem conclude_blocked (sums : journal.AddsUp tally) (step : UInt64) (flow : Flow)
    (firewall : Node) (decision : Decision) :
    (journal.conclude step flow (.blocked firewall decision)).AddsUp
      (tally.enter (.blocked firewall decision)) := by
  refine ⟨?_, fun kind => ?_, fun topic => ?_⟩
  · change journal.counters.evaluatePolicy.blockPolicy.dropPacket = _
    rw [sums.counters, tally.counters_enter_blocked]
  · simp only [Journal.conclude, count_events_report, count_events_count, count_events_log,
      sums.events kind]
    cases kind <;> rfl
  · simp only [Journal.conclude, count_findings_report, count_findings_count, count_findings_log,
      sums.findings topic, Topic.covers_blocked]
    cases topic <;> rfl

theorem conclude_delivered (sums : journal.AddsUp tally) (step : UInt64) (flow : Flow)
    (route : Route) (evaluated : Bool) :
    (journal.conclude step flow (.delivered route evaluated)).AddsUp
      (tally.enter (.delivered route evaluated)) := by
  -- The packets add nothing but their own events, so all else can be read off before them.
  obtain ⟨counters, findings, events⟩ := send_packets_counts step flow route.path
    (if evaluated then journal.count .evaluatePolicy else journal)
  refine ⟨?_, fun kind => ?_, fun topic => ?_⟩
  · change Counters.processPacket
      (route.path.foldl (sendPacket step flow)
        (if evaluated then journal.count .evaluatePolicy else journal)).counters = _
    rw [counters]
    cases evaluated with
    | false => rw [tally.counters_enter_unguarded, ← sums.counters]; rfl
    | true => rw [tally.counters_enter_allowed, ← sums.counters]; rfl
  · have counted : (if evaluated then journal.count .evaluatePolicy else journal).countEvents kind =
        tally.eventsOf kind := by
      rw [← sums.events kind]
      cases evaluated <;> rfl
    rw [tally.events_of_enter_delivered]
    simp only [Journal.conclude, count_events_log, count_events_count, events, counted]
    rfl
  · have counted : (if evaluated then journal.count .evaluatePolicy else journal).findings =
        journal.findings := by
      cases evaluated <;> rfl
    simp only [Journal.conclude, count_findings_log, count_findings_count]
    rw [countFindings, findings, counted]
    refine (sums.findings topic).trans ?_
    cases evaluated <;> cases topic <;> rfl

/-- Every end of a flow is entered everywhere, and everywhere once. -/
theorem conclude (sums : journal.AddsUp tally) (step : UInt64) (flow : Flow)
    (outcome : FlowOutcome) :
    (journal.conclude step flow outcome).AddsUp (tally.enter outcome) := by
  cases outcome with
  | unreachable => exact sums.conclude_unreachable step flow
  | blocked firewall decision => exact sums.conclude_blocked step flow firewall decision
  | delivered route evaluated => exact sums.conclude_delivered step flow route evaluated

theorem send_flow (sums : journal.AddsUp tally) (config : Config) (graph : Graph) (flow : Flow) :
    ∃ outcome, (journal.sendFlow config graph flow).AddsUp
      ({ tally with starts := tally.starts + 1 }.enter outcome) := by
  have started := sums.log_start flow journal.clock
  exact ⟨_, (started.resolve config graph flow).conclude config.timeStep flow _⟩

end AddsUp

theorem foldl_counts {α : Type} {step : Journal → α → Journal} {motive : Nat → Journal → Prop}
    (each : ∀ count journal item, motive count journal → motive (count + 1) (step journal item))
    (items : List α) {count : Nat} {journal : Journal} (before : motive count journal) :
    motive (count + items.length) (items.foldl step journal) := by
  induction items generalizing count journal with
  | nil => exact before
  | cons item rest induction =>
      have after := induction (each count journal item before)
      rwa [Nat.add_assoc, Nat.add_comm 1] at after

/-- The journal adds up, no flow is still on its way, and so many flows have been sent, so many
faults injected and so many attacks tried. -/
def Accounts (journal : Journal) (flows faults attacks : Nat) : Prop :=
  ∃ tally : Tally, journal.AddsUp tally ∧ tally.Closed ∧
    tally.starts = flows ∧ tally.faults = faults ∧ tally.attacks = attacks

theorem accounts_start (scenarioId : String) (now : Instant) :
    (start scenarioId now).Accounts 0 0 0 :=
  ⟨.zero, adds_up_start scenarioId now, rfl, rfl, rfl, rfl⟩

namespace Accounts

variable {journal : Journal} {flows faults attacks : Nat}

theorem report_aside (accounts : journal.Accounts flows faults attacks)
    {observation : Observation}
    (aside : ∀ topic, Topic.covers observation.title topic = false) :
    (journal.report observation).Accounts flows faults attacks := by
  obtain ⟨tally, sums, rest⟩ := accounts
  exact ⟨tally, sums.report_aside aside, rest⟩

theorem log_fault (accounts : journal.Accounts flows faults attacks) (fault : Fault) :
    (journal.log fault.event).Accounts flows (faults + 1) attacks := by
  obtain ⟨tally, sums, closed, rfl, rfl, rfl⟩ := accounts
  exact ⟨_, sums.log_fault fault, closed, rfl, rfl, rfl⟩

theorem send_flow (accounts : journal.Accounts flows faults attacks) (config : Config)
    (graph : Graph) (flow : Flow) :
    (journal.sendFlow config graph flow).Accounts (flows + 1) faults attacks := by
  obtain ⟨tally, sums, closed, rfl, rfl, rfl⟩ := accounts
  obtain ⟨outcome, sent⟩ := sums.send_flow config graph flow
  exact ⟨_, sent, Tally.closed_enter closed outcome, by simp⟩

theorem try_attack (accounts : journal.Accounts flows faults attacks) (graph : Graph)
    (attack : AttackEvent) :
    (journal.tryAttack graph attack).Accounts flows faults (attacks + 1) := by
  obtain ⟨tally, sums, closed, rfl, rfl, rfl⟩ := accounts
  exact ⟨_, sums.try_attack graph attack, closed, rfl, rfl, rfl⟩

theorem report_all_aside (accounts : journal.Accounts flows faults attacks)
    (observations : List Observation)
    (aside : ∀ observation ∈ observations, ∀ topic, Topic.covers observation.title topic = false) :
    (observations.foldl report journal).Accounts flows faults attacks :=
  List.foldlRecOn (motive := fun journal => journal.Accounts flows faults attacks)
    observations report accounts fun _ accounts observation member =>
      accounts.report_aside (aside observation member)

theorem log_faults (accounts : journal.Accounts flows faults attacks) (injected : List Fault) :
    (injected.foldl (fun journal fault => journal.log fault.event) journal).Accounts
      flows (faults + injected.length) attacks :=
  foldl_counts (motive := fun faults journal => journal.Accounts flows faults attacks)
    (fun _ _ fault accounts => accounts.log_fault fault) injected accounts

theorem send_flows (accounts : journal.Accounts flows faults attacks) (config : Config)
    (graph : Graph) (sent : List Flow) :
    (sent.foldl (sendFlow config graph) journal).Accounts
      (flows + sent.length) faults attacks :=
  foldl_counts (motive := fun flows journal => journal.Accounts flows faults attacks)
    (fun _ _ flow accounts => accounts.send_flow config graph flow) sent accounts

theorem try_attacks (accounts : journal.Accounts flows faults attacks) (graph : Graph)
    (tried : List AttackEvent) :
    (tried.foldl (tryAttack graph) journal).Accounts
      flows faults (attacks + tried.length) :=
  foldl_counts (motive := fun attacks journal => journal.Accounts flows faults attacks)
    (fun _ _ attack accounts => accounts.try_attack graph attack) tried accounts

end Accounts

end Journal

theorem Config.play_accounts (config : Config) (warnings : List Issue) (faulted : Graph)
    (scenario : Scenario) {journal : Journal} (fresh : journal.Accounts 0 0 0) :
    (config.play warnings faulted scenario journal).Accounts
      scenario.flows.length scenario.faults.length scenario.attacks.length := by
  have aside : ∀ observation ∈ warnings.map Issue.observation, ∀ topic,
      Topic.covers observation.title topic = false := by
    intro observation member
    obtain ⟨issue, _, rfl⟩ := List.mem_map.1 member
    exact Topic.covers_warning issue
  have warned := fresh.report_all_aside _ aside
  rw [List.foldl_map] at warned
  have broken := warned.log_faults scenario.faults
  have sent := broken.send_flows config faulted scenario.flows
  have attacked := sent.try_attacks faulted scenario.attacks
  have exposed := attacked.report_all_aside faulted.exposures fun _ => Topic.covers_exposure
  simp only [Nat.zero_add] at exposed
  exact exposed

def RunResult.countFindings (result : RunResult) (topic : Topic) : Nat :=
  result.findings.countP fun finding => topic.covers finding.title

/-- What a run conserves: every flow is counted once as processed or as dropped, and the events and
the findings tell the same totals as the counters. -/
structure RunResult.Conserves (result : RunResult) (scenario : Scenario) (totals : Totals) :
    Prop where
  flows : totals.processed + totals.dropped = scenario.flows.length
  flowStarts : result.countEvents .flowStart = scenario.flows.length
  flowEnds : result.countEvents .flowEnd = totals.processed
  policyBlocks : result.countEvents .policyBlock = totals.blocked
  policyFindings : result.countFindings .blocked = totals.blocked
  packetDrops : result.countEvents .packetDropped + totals.blocked = totals.dropped
  dropFindings : result.countFindings .unreachable + totals.blocked = totals.dropped
  blocked_le : totals.blocked ≤ totals.evaluated
  evaluated_le : totals.evaluated ≤ scenario.flows.length
  allowed_le : totals.evaluated - totals.blocked ≤ totals.processed
  faultInjections : result.countEvents .faultInjected = scenario.faults.length
  attackEvents : result.countEvents .attackEvent = scenario.attacks.length
  attackFindings : result.countFindings .attack = scenario.attacks.length

theorem Journal.Accounts.conserves {journal : Journal} {scenario : Scenario}
    (accounts : journal.Accounts scenario.flows.length scenario.faults.length
      scenario.attacks.length)
    (finishedAt : Instant) (status : RunStatus) (graph : Graph) (blastRadius : Option BlastReport) :
    ∃ totals : Totals, journal.counters = totals.counters ∧
      (journal.finish finishedAt status graph blastRadius).Conserves scenario totals := by
  obtain ⟨tally, sums, closed, flows, faults, attacks⟩ := accounts
  have unreachable : tally.unreachable + tally.blocked = tally.dropped :=
    Nat.add_comm tally.unreachable tally.blocked
  have allowed : tally.evaluated - tally.blocked ≤ tally.processed := by
    unfold Tally.evaluated Tally.processed
    omega
  have evaluated : tally.evaluated ≤ tally.processed + tally.dropped := by
    unfold Tally.evaluated Tally.processed Tally.dropped
    omega
  rw [Tally.Closed, flows] at closed
  refine ⟨tally.totals, sums.counters, ?_⟩
  exact {
    flows := closed
    flowStarts := (sums.events .flowStart).trans flows
    flowEnds := sums.events .flowEnd
    policyBlocks := sums.events .policyBlock
    policyFindings := sums.findings .blocked
    packetDrops := (congrArg (· + tally.blocked) (sums.events .packetDropped)).trans unreachable
    dropFindings := (congrArg (· + tally.blocked) (sums.findings .unreachable)).trans unreachable
    blocked_le := Nat.le_add_left tally.blocked tally.allowed
    evaluated_le := closed ▸ evaluated
    allowed_le := allowed
    faultInjections := (sums.events .faultInjected).trans faults
    attackEvents := (sums.events .attackEvent).trans attacks
    attackFindings := (sums.findings .attack).trans attacks }

theorem RunResult.Conserves.totals_eq {result : RunResult} {scenario : Scenario} {totals : Totals}
    (conserves : result.Conserves scenario totals)
    (fits : scenario.flows.length < UInt64.size) : totals.counters.totals = totals := by
  have flows := conserves.flows
  have evaluated := conserves.evaluated_le
  have blocked := conserves.blocked_le
  apply Totals.totals_counters <;> omega

namespace Config

/-- A run that is completed counts every flow once, in its counters as in its events and findings.
The counters are exact unless there are more flows than 64 bits can count. -/
theorem simulate_conserves (config : Config) (span : Span) (graph : Graph) (scenario : Scenario)
    (completed : (config.simulate span graph scenario).status = .completed) :
    ∃ totals : Totals,
      (config.simulate span graph scenario).metrics.toCounters = totals.counters ∧
      (scenario.flows.length < UInt64.size →
        (config.simulate span graph scenario).metrics.toCounters.totals = totals) ∧
      (config.simulate span graph scenario).Conserves scenario totals := by
  unfold simulate at completed ⊢
  simp only at completed ⊢
  split at completed
  · rename_i valid
    rw [if_pos valid]
    have accounts := config.play_accounts graph.validate.warnings
      (graph.injectAll scenario.faults) scenario (Journal.accounts_start scenario.id span.startedAt)
    obtain ⟨totals, counters, conserves⟩ := accounts.conserves span.finishedAt .completed
      (graph.injectAll scenario.faults) (config.blastReport? (graph.injectAll scenario.faults))
    refine ⟨totals, counters, fun fits => ?_, conserves⟩
    exact (congrArg Counters.totals counters).trans (conserves.totals_eq fits)
  · cases completed

/-- The sample day at the office, on which flows pass, are stopped and find no route. -/
theorem simulate_conserves_office :
    (Config.default.simulate .epoch Sample.office Sample.officeDay).status = .completed ∧
      ∃ totals : Totals,
        (Config.default.simulate .epoch Sample.office Sample.officeDay).metrics.toCounters.totals =
          totals ∧
        (Config.default.simulate .epoch Sample.office Sample.officeDay).Conserves Sample.officeDay
          totals := by
  have completed :
      (Config.default.simulate .epoch Sample.office Sample.officeDay).status = .completed := by
    decide +kernel
  obtain ⟨totals, _, shown, conserves⟩ :=
    simulate_conserves Config.default .epoch Sample.office Sample.officeDay completed
  exact ⟨completed, totals, shown (by decide), conserves⟩

end Config

end NetworkTwin
