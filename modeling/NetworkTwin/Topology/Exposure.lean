import NetworkTwin.Finding
import NetworkTwin.Topology.Basic

/-!
Exposure checks: servers that the public reaches without encryption, and administration next to
guests. Failed links count as adjacency.
-/

namespace NetworkTwin

namespace Node

def isUnprotectedPublicServer (node : Node) : Bool :=
  node.kind == .server && node.hasTag "public" && !node.propertyTruthy "tls" &&
    !node.propertyTruthy "https"

def isAdmin (node : Node) : Bool := node.role == some "admin" || node.hasTag "admin"

def encryptionCheck (node : Node) : Option Observation :=
  if node.isUnprotectedPublicServer then
    some ((Observation.plain .medium "Public Service Without TLS"
      ("Server " ++ node.label ++ " is publicly accessible but does not have TLS enabled"))
        |>.withNodes [node.id]
        |>.withCategory "misconfiguration"
        |>.withRemediation "Enable TLS/HTTPS for public-facing services")
  else none

end Node

namespace Graph

def isGuest (graph : Graph) (id : String) : Bool :=
  match graph.node? id with
  | some node => node.hasTag "guest"
  | none => false

def guestLinks (graph : Graph) (node : String) : List Link :=
  (graph.linksTouching node).filter fun link =>
    graph.isGuest link.source || graph.isGuest link.target

def guestCheck (graph : Graph) (node : Node) : Option Observation :=
  let links := graph.guestLinks node.id
  if node.isAdmin && !links.isEmpty then
    some ((Observation.plain .critical "Admin Interface Accessible from Guest Network"
      ("Admin node " ++ node.label ++ " is accessible from guest network"))
        |>.withNodes [node.id]
        |>.withLinks (links.map (·.id))
        |>.withCategory "access-control"
        |>.withRemediation
          "Implement network segmentation to isolate admin interfaces from guest networks")
  else none

def exposures (graph : Graph) : List Observation :=
  graph.nodes.flatMap fun node => node.encryptionCheck.toList ++ (graph.guestCheck node).toList

end Graph

end NetworkTwin
