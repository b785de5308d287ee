import NetworkTwin.Topology.Basic
import NetworkTwin.Text.Blank

/-!
The structural report on a topology. Errors make a topology unusable for a run: repeated node ids
and links that end nowhere. Warnings point at nodes without links and at nodes that many links hang
on. Failed links count like all others.
-/

namespace NetworkTwin

structure Issue where
  message : String
  nodeId : Option String
  linkId : Option String
deriving DecidableEq, Repr

structure StructureReport where
  valid : Bool
  errors : List Issue
  warnings : List Issue
deriving DecidableEq, Repr

def Issue.aboutNode (node message : String) : Issue := ⟨message, some node, none⟩

def Issue.aboutLink (link message : String) : Issue := ⟨message, none, some link⟩

/-- The texts that have occurred before, given those seen so far, once for each repetition. -/
def repeats (seen : List String) : List String → List String
  | [] => []
  | text :: rest =>
      if seen.contains text then text :: repeats seen rest else repeats (text :: seen) rest

namespace Graph

def repeatedNodeErrors (graph : Graph) : List Issue :=
  (repeats [] graph.nodeIds).map fun id => .aboutNode id ("Duplicate node ID: " ++ id)

def danglingErrors (graph : Graph) (link : Link) : List Issue :=
  let remark (role id : String) : List Issue :=
    if graph.declares id then []
    else [.aboutLink link.id
      ("Link " ++ link.id ++ " references non-existent " ++ role ++ " node: " ++ id)]
  remark "source" link.source ++ remark "target" link.target

def linkEnds (graph : Graph) : List String := graph.links.flatMap Link.ends

/-- The remarks about nodes that no link touches. A single node is never isolated. -/
def isolationWarnings (graph : Graph) : List Issue :=
  if graph.nodes.length ≤ 1 then []
  else (graph.nodes.filter fun node => !graph.linkEnds.contains node.id).map fun node =>
    .aboutNode node.id
      ("Node " ++ node.label ++ " (" ++ node.id ++ ") is isolated (no connections)")

/-- The number of link ends from which a node counts as a single point of failure. -/
def failurePointDegree : Nat := 3

/-- The nodes that so many link ends lie at, in the order of their first link. -/
def failurePoints (graph : Graph) : List String :=
  graph.linkEnds.eraseDups.filter fun id => failurePointDegree ≤ graph.linkEnds.count id

/-- The remarks about single points of failure. What is not declared goes by its id. -/
def failurePointWarnings (graph : Graph) : List Issue :=
  graph.failurePoints.map fun id =>
    let label := match graph.node? id with
      | some node => node.label
      | none => id
    .aboutNode id ("Node " ++ label ++ " (" ++ id ++ ") is a single point of failure")

def validate (graph : Graph) : StructureReport :=
  let errors := graph.repeatedNodeErrors ++ graph.links.flatMap graph.danglingErrors
  let warnings := graph.isolationWarnings ++ graph.failurePointWarnings
  ⟨errors.isEmpty, errors, warnings⟩

end Graph

def StructureReport.summary (report : StructureReport) : String :=
  Text.joinWith ", " (report.errors.map (·.message))

end NetworkTwin
