import NetworkTwin.Document.Value
import NetworkTwin.Policy.Evaluation
import NetworkTwin.Schema
import NetworkTwin.Severity

/-!
Networks: nodes and the links between them. A link joins its two ends in both directions. Nothing
here asks that ids be distinct or that the ends of a link be declared; where it matters, the first
node or link with an id is meant.
-/

namespace NetworkTwin

inductive NodeKind where
  | router
  | switch
  | firewall
  | modem
  | server
  | workstation
  | mobile
  | iot
  | tdl
  | hackingDevice
  | cloudService
deriving DecidableEq, Repr

inductive LinkKind where
  | ethernet
  | wifi
  | wan
  | vpn
  | serial
  | tdl
deriving DecidableEq, Repr

structure Interface where
  id : String
  name : String
  ipAddress : Option String
  subnet : Option String
  macAddress : Option String
  enabled : Bool
deriving DecidableEq, Repr

structure Position where
  x : Float
  y : Float

structure Node where
  id : String
  kind : NodeKind
  label : String
  role : Option String
  os : Option String
  version : Option String
  tags : List String
  criticality : Severity
  interfaces : List Interface
  properties : Dictionary Value
  position : Position

structure Link where
  id : String
  source : String
  target : String
  kind : LinkKind
  bandwidth : Float
  latency : Float
  loss : Float
  jitter : Float
  canFail : Bool
  failed : Bool
  label : Option String

structure GraphMetadata where
  name : Option String
  description : Option String
  createdAt : Option String
  updatedAt : Option String
deriving DecidableEq, Repr

structure Graph where
  nodes : List Node
  links : List Link
  metadata : Option GraphMetadata

def updateFirst {α : Type} (test : α → Bool) (change : α → α) : List α → List α
  | [] => []
  | item :: rest => if test item then change item :: rest else item :: updateFirst test change rest

/-- Where no two items have one key, every item is the first with its key. -/
theorem find_by_key {α : Type} {key : α → String} {items : List α}
    (distinct : (items.map key).Nodup) {item : α} (member : item ∈ items) :
    items.find? (fun other => key other == key item) = some item := by
  induction items with
  | nil => cases member
  | cons first rest induction =>
      obtain ⟨notLater, distinctRest⟩ := List.nodup_cons.1 distinct
      rcases List.mem_cons.1 member with rfl | later
      · simp
      · have differs : key first ≠ key item := by
          intro same
          exact notLater (same ▸ List.mem_map_of_mem later)
        rw [List.find?_cons_of_neg (by simpa using differs)]
        exact induction distinctRest later

namespace NodeKind

def all : List NodeKind :=
  [.router, .switch, .firewall, .modem, .server, .workstation, .mobile, .iot, .tdl,
    .hackingDevice, .cloudService]

def name : NodeKind → String
  | .router => "router"
  | .switch => "switch"
  | .firewall => "firewall"
  | .modem => "modem"
  | .server => "server"
  | .workstation => "workstation"
  | .mobile => "mobile"
  | .iot => "iot"
  | .tdl => "tdl"
  | .hackingDevice => "hacking-device"
  | .cloudService => "cloud-service"

def ofName? (word : String) : Option NodeKind := all.find? fun kind => kind.name == word

end NodeKind

namespace LinkKind

def all : List LinkKind := [.ethernet, .wifi, .wan, .vpn, .serial, .tdl]

def name : LinkKind → String
  | .ethernet => "ethernet"
  | .wifi => "wifi"
  | .wan => "wan"
  | .vpn => "vpn"
  | .serial => "serial"
  | .tdl => "tdl"

def ofName? (word : String) : Option LinkKind := all.find? fun kind => kind.name == word

end LinkKind

namespace Node

def plain (id : String) (kind : NodeKind) (label : String) : Node :=
  { id := id, kind := kind, label := label, role := none, os := none, version := none, tags := [],
    criticality := .medium, interfaces := [], properties := .empty, position := ⟨0.0, 0.0⟩ }

def withTag (node : Node) (tag : String) : Node := { node with tags := node.tags ++ [tag] }

def withRole (node : Node) (role : String) : Node := { node with role := some role }

def withCriticality (node : Node) (criticality : Severity) : Node :=
  { node with criticality := criticality }

def withProperty (node : Node) (key : String) (value : Value) : Node :=
  { node with properties := node.properties.insert key value }

def hasTag (node : Node) (tag : String) : Bool := node.tags.contains tag

def isFirewall (node : Node) : Bool := node.kind == .firewall

def propertyText? (node : Node) (key : String) : Option String :=
  (node.properties.get? key).bind Value.text?

def propertyTruthy (node : Node) (key : String) : Bool :=
  match node.properties.get? key with
  | some value => value.truthy
  | none => false

end Node

namespace Link

def plain (id source target : String) : Link :=
  { id := id, source := source, target := target, kind := .ethernet, bandwidth := 1000.0,
    latency := 0.0, loss := 0.0, jitter := 0.0, canFail := false, failed := false, label := none }

def withLatency (link : Link) (latency : Float) : Link := { link with latency := latency }

def withKind (link : Link) (kind : LinkKind) : Link := { link with kind := kind }

def touches (link : Link) (node : String) : Bool := link.source == node || link.target == node

/-- The end that is not the node; the source if the node is the target or no end at all. -/
def otherEnd (link : Link) (node : String) : String :=
  if link.source == node then link.target else link.source

def ends (link : Link) : List String := [link.source, link.target]

end Link

namespace Graph

def empty : Graph := ⟨[], [], none⟩

def addNode (graph : Graph) (node : Node) : Graph := { graph with nodes := graph.nodes ++ [node] }

def addLink (graph : Graph) (link : Link) : Graph := { graph with links := graph.links ++ [link] }

def nodeIds (graph : Graph) : List String := graph.nodes.map (·.id)

def declares (graph : Graph) (id : String) : Bool := graph.nodeIds.contains id

def node? (graph : Graph) (id : String) : Option Node := graph.nodes.find? (·.id == id)

def link? (graph : Graph) (id : String) : Option Link := graph.links.find? (·.id == id)

theorem node_of_mem {graph : Graph} (distinct : graph.nodeIds.Nodup) {node : Node}
    (declared : node ∈ graph.nodes) : graph.node? node.id = some node :=
  find_by_key distinct declared

theorem link_of_mem {graph : Graph} (distinct : (graph.links.map (·.id)).Nodup) {link : Link}
    (declared : link ∈ graph.links) : graph.link? link.id = some link :=
  find_by_key distinct declared

def updateLink (graph : Graph) (id : String) (change : Link → Link) : Graph :=
  { graph with links := updateFirst (·.id == id) change graph.links }

def linksTouching (graph : Graph) (node : String) : List Link :=
  graph.links.filter (·.touches node)

def liveLinks (graph : Graph) : List Link := graph.links.filter fun link => !link.failed

/-- The tags of every node; of two nodes with one id the later counts. -/
def tags (graph : Graph) : TagMap :=
  Dictionary.ofList (graph.nodes.map fun node => (node.id, node.tags))

end Graph

end NetworkTwin
