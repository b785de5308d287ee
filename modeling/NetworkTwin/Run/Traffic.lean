import NetworkTwin.Run.Attack
import NetworkTwin.Run.Journal

/-!
Flows. A flow is held against the policy of one firewall, the one that is declared first of those on
its route. What becomes of it is found out first and then entered into the journal of the run: its
events, its counters, and a finding unless it arrives.
-/

namespace NetworkTwin

/-- What becomes of a flow: it has no route, a firewall stops it, or it arrives, and then perhaps
because a firewall lets it pass. -/
inductive FlowOutcome where
  | unreachable
  | blocked (firewall : Node) (decision : Decision)
  | delivered (route : Route) (evaluated : Bool)

namespace Flow

def query (flow : Flow) : Query :=
  { source := flow.source, destination := flow.destination, protocol := some flow.protocol,
    port := flow.port }

def startEvent (flow : Flow) (clock : UInt64) : Event :=
  (Event.plain clock .flowStart ("Flow started: " ++ flow.source ++ " → " ++ flow.destination ++
    " (" ++ flow.protocol ++ ")")).withFlow flow.id

def dropEvent (flow : Flow) (clock : UInt64) : Event :=
  (Event.plain clock .packetDropped
    ("No path found from " ++ flow.source ++ " to " ++ flow.destination)).withFlow flow.id

def blockEvent (flow : Flow) (firewall : Node) (decision : Decision) (clock : UInt64) : Event :=
  ((Event.plain clock .policyBlock
    ("Flow blocked by firewall " ++ firewall.label ++ ": " ++ decision.reason)).withNode
      firewall.id).withFlow flow.id

def packetEvent (flow : Flow) (node : String) (clock : UInt64) : Event :=
  ((Event.plain clock .packetSent ("Packet at node " ++ node)).withNode node).withFlow flow.id

def endEvent (flow : Flow) (clock : UInt64) : Event :=
  (Event.plain clock .flowEnd
    ("Flow completed: " ++ flow.source ++ " → " ++ flow.destination)).withFlow flow.id

def unreachable (flow : Flow) : Observation :=
  (Observation.plain .high "Unreachable Destination"
    ("Node " ++ flow.source ++ " cannot reach " ++ flow.destination))
      |>.withNodes [flow.source, flow.destination]
      |>.withRemediation "Add network connectivity or check for failed links"

def blockEvidence (flow : Flow) (decision : Decision) : Value :=
  .object [
    ("flow", flow.encode),
    ("rule", Value.ofOption (decision.matchedRule.map Rule.encode))]

def blocked (flow : Flow) (firewall : Node) (decision : Decision) : Observation :=
  (Observation.plain .info "Traffic Blocked by Policy"
    ("Flow from " ++ flow.source ++ " to " ++ flow.destination ++
      " was blocked by firewall policy"))
      |>.withNodes [firewall.id]
      |>.withCategory "policy-enforcement"
      |>.withEvidence (flow.blockEvidence decision)

end Flow

namespace Journal

/-- What becomes of a flow, and the journal that knows the policy that was asked for. -/
def resolveFlow (config : Config) (graph : Graph) (journal : Journal) (flow : Flow) :
    FlowOutcome × Journal :=
  match graph.findPath flow.source flow.destination with
  | none => (.unreachable, journal)
  | some route =>
      match graph.firewallOn? route.path with
      | none => (.delivered route false, journal)
      | some firewall =>
          let (policy, asked) := journal.policyOf config firewall
          let decision := policy.evaluate graph.tags flow.query
          if decision.allowed then (.delivered route true, asked)
          else (.blocked firewall decision, asked)

def sendPacket (step : UInt64) (flow : Flow) (journal : Journal) (node : String) : Journal :=
  (journal.log (flow.packetEvent node journal.clock)).pass step

def conclude (step : UInt64) (flow : Flow) (journal : Journal) : FlowOutcome → Journal
  | .unreachable =>
      ((journal.log (flow.dropEvent journal.clock)).count .dropPacket).report flow.unreachable
  | .blocked firewall decision =>
      let counted := ((journal.count .evaluatePolicy).count .blockPolicy).count .dropPacket
      (counted.log (flow.blockEvent firewall decision counted.clock)).report
        (flow.blocked firewall decision)
  | .delivered route evaluated =>
      let counted := if evaluated then journal.count .evaluatePolicy else journal
      let sent := (route.path.foldl (sendPacket step flow) counted).count .processPacket
      sent.log (flow.endEvent sent.clock)

def sendFlow (config : Config) (graph : Graph) (journal : Journal) (flow : Flow) : Journal :=
  let started := journal.log (flow.startEvent journal.clock)
  let (outcome, asked) := started.resolveFlow config graph flow
  asked.conclude config.timeStep flow outcome

end Journal

end NetworkTwin
