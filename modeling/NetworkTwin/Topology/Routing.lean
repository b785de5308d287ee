import NetworkTwin.Topology.Basic

/-!
Shortest routes by breadth-first search over the links that have not failed. A node is settled when
it leaves the queue, so the queue may hold it several times; the first copy counts. Of several
shortest routes the search finds the one whose links are declared first.
-/

namespace NetworkTwin

/-- A way from one node to another: the nodes in order, and the link between each and the next. -/
structure Route where
  path : List String
  links : List String
deriving DecidableEq, Repr

def Route.stay (node : String) : Route := ⟨[node], []⟩

def Route.hops (route : Route) : Nat := route.links.length

structure Hop where
  node : String
  link : String
deriving DecidableEq, Repr

/-- The neighbours that a link gives to a node. A link from a node to itself gives two. -/
def Link.hopsFrom (link : Link) (node : String) : List Hop :=
  (if link.source = node then [⟨link.target, link.id⟩] else []) ++
    (if link.target = node then [⟨link.source, link.id⟩] else [])

/-- The neighbours of a node over links that have not failed, in the order of the links. Only a
declared node has any; they need not be declared themselves. -/
def Graph.neighbours (graph : Graph) (node : String) : List Hop :=
  if graph.declares node then graph.liveLinks.flatMap fun link => link.hopsFrom node else []

/-- A node in a search, the link over which it was found, and the place of the settled node it was
found from. -/
structure Step where
  node : String
  link : Option String
  parent : Option Nat
deriving DecidableEq, Repr

/-- A search: the nodes settled so far in order, and those that wait. -/
structure Search where
  settled : List Step
  queue : List Step
deriving DecidableEq, Repr

namespace Search

def start (source : String) : Search := ⟨[], [⟨source, none, none⟩]⟩

def hasSettled (search : Search) (node : String) : Bool :=
  search.settled.any fun step => step.node == node

def expand (graph : Graph) (search : Search) (step : Step) (waiting : List Step) : Search :=
  let place := search.settled.length
  let settled := search.settled ++ [step]
  let found := (graph.neighbours step.node).filter fun hop =>
    !settled.any fun earlier => earlier.node == hop.node
  ⟨settled, waiting ++ found.map fun hop => ⟨hop.node, some hop.link, some place⟩⟩

/-- Runs a search for at most a number of steps, until the queue is empty or the goal is settled.
What is settled already is passed over. -/
def run (graph : Graph) (goal : Option String) : Nat → Search → Search
  | 0, search => search
  | limit + 1, search =>
      match search.queue with
      | [] => search
      | step :: waiting =>
          if search.hasSettled step.node then run graph goal limit ⟨search.settled, waiting⟩
          else if goal = some step.node then ⟨search.settled ++ [step], waiting⟩
          else run graph goal limit (search.expand graph step waiting)

/-- The steps from a settled place back to the source. Each was found from an earlier place. -/
def trace (settled : List Step) (place : Nat) : List Step :=
  match settled[place]? with
  | none => []
  | some step =>
      match step.parent with
      | none => [step]
      | some parent => if parent < place then step :: trace settled parent else [step]
termination_by place

def place? (search : Search) (node : String) : Option Nat :=
  search.settled.findIdx? fun step => step.node == node

def route? (search : Search) (node : String) : Option Route :=
  (search.place? node).map fun place =>
    let steps := (trace search.settled place).reverse
    ⟨steps.map (·.node), steps.filterMap (·.link)⟩

end Search

namespace Graph

/-- The most steps that a search can take: the source, and both ends of every link that has not
failed. -/
def searchLimit (graph : Graph) : Nat := 1 + 2 * graph.liveLinks.length

/-- The search from a node, for a goal or for all that can be reached. A node that is not declared
leads nowhere and is not settled itself. -/
def explore (graph : Graph) (source : String) (goal : Option String) : Search :=
  if graph.declares source then Search.run graph goal graph.searchLimit (Search.start source)
  else ⟨[], []⟩

/-- A shortest route between two nodes. Every id, declared or not, has a route to itself. -/
def findPath (graph : Graph) (source target : String) : Option Route :=
  if source = target then some (Route.stay source)
  else (graph.explore source (some target)).route? target

/-- The latencies of the links with the given ids, added in order. Unknown ids add nothing. -/
def pathLatency (graph : Graph) (links : List String) : Float :=
  (links.filterMap fun id => (graph.link? id).map (·.latency)).foldl (· + ·) 0.0

end Graph

end NetworkTwin
