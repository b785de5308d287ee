import NetworkTwin.Proofs.Text.Occurrences

/-!
The remarks on a topology, one by one. There is an error for every repetition of a node id and for
every end of a link that is not declared, and a warning for every node without links and for every id
at which three ends of links lie. The report says this and nothing else, in the order of the nodes
and of the links.
-/

namespace NetworkTwin

def Node.repeatedIssue (node : Node) : Issue :=
  .aboutNode node.id ("Duplicate node ID: " ++ node.id)

def Node.isolatedIssue (node : Node) : Issue :=
  .aboutNode node.id ("Node " ++ node.label ++ " (" ++ node.id ++ ") is isolated (no connections)")

/-- One end of a link: the link, the part that the end has in it, and the node that it names. -/
structure LinkEnd where
  link : String
  role : String
  node : String

def LinkEnd.issue (place : LinkEnd) : Issue :=
  .aboutLink place.link ("Link " ++ place.link ++ " references non-existent " ++ place.role ++
    " node: " ++ place.node)

def Link.bothEnds (link : Link) : List LinkEnd :=
  [⟨link.id, "source", link.source⟩, ⟨link.id, "target", link.target⟩]

namespace Graph

/-- The entries of the list of nodes with an id that an earlier entry has. -/
def repeatedEntries (graph : Graph) : List Node := repeatedBy (·.id) graph.nodes

/-- The ends of links at which no node is declared. -/
def looseEnds (graph : Graph) : List LinkEnd :=
  (graph.links.flatMap Link.bothEnds).filter fun place =>
    ∀ node ∈ graph.nodes, node.id ≠ place.node

/-- The entries of the list of nodes that no link touches, unless there is just one entry. -/
def isolatedEntries (graph : Graph) : List Node :=
  graph.nodes.filter fun node =>
    1 < graph.nodes.length ∧ ∀ link ∈ graph.links, link.touches node.id = false

/-- How many ends of links lie at a node. Both ends of a loop do. -/
def degree (graph : Graph) (id : String) : Nat :=
  graph.links.countP (·.source == id) + graph.links.countP (·.target == id)

/-- The warning about a single point of failure. What is not declared goes by its id. -/
def failurePointIssue (graph : Graph) (id : String) : Issue :=
  let label := ((graph.node? id).map (·.label)).getD id
  .aboutNode id ("Node " ++ label ++ " (" ++ id ++ ") is a single point of failure")

end Graph

namespace Graph

variable (graph : Graph)

theorem repeated_node_errors_eq :
    graph.repeatedNodeErrors = graph.repeatedEntries.map Node.repeatedIssue := by
  rw [repeatedNodeErrors, nodeIds, ← map_repeated_by, List.map_map]
  rfl

theorem declares_eq_false_iff {id : String} :
    graph.declares id = false ↔ ∀ node ∈ graph.nodes, node.id ≠ id := by
  simp [declares, nodeIds]

theorem dangling_errors_eq :
    graph.links.flatMap graph.danglingErrors = graph.looseEnds.map LinkEnd.issue := by
  rw [looseEnds, List.filter_flatMap, List.map_flatMap]
  refine List.flatMap_congr fun link _ => ?_
  have loose (id : String) :
      decide (∀ node ∈ graph.nodes, node.id ≠ id) = !graph.declares id := by
    rw [Bool.eq_iff_iff, decide_eq_true_eq, Bool.not_eq_true', declares_eq_false_iff]
  simp only [danglingErrors, Link.bothEnds, List.filter_cons, List.filter_nil, loose]
  cases graph.declares link.source <;> cases graph.declares link.target <;> rfl

theorem mem_link_ends_iff {id : String} :
    id ∈ graph.linkEnds ↔ ∃ link ∈ graph.links, link.touches id = true := by
  simp only [linkEnds, List.mem_flatMap, Link.ends, Link.touches, List.mem_cons, List.not_mem_nil,
    or_false, Bool.or_eq_true, beq_iff_eq]
  exact exists_congr fun link => and_congr_right fun _ => or_congr eq_comm eq_comm

theorem isolation_warnings_eq :
    graph.isolationWarnings = graph.isolatedEntries.map Node.isolatedIssue := by
  unfold isolationWarnings isolatedEntries
  split
  · rename_i few
    rw [List.filter_eq_nil_iff.2]
    · rfl
    · intro node _
      simp [Nat.not_lt.2 few]
  · rename_i many
    refine congrArg (List.map Node.isolatedIssue) (List.filter_congr fun node _ => ?_)
    rw [Bool.eq_iff_iff, Bool.not_eq_true', decide_eq_true_eq, ← Bool.not_eq_true,
      List.contains_iff_mem, mem_link_ends_iff]
    simp [Nat.not_le.1 many]

theorem count_link_ends (id : String) : graph.linkEnds.count id = graph.degree id := by
  unfold linkEnds degree
  induction graph.links with
  | nil => rfl
  | cons link rest induction =>
      rw [List.flatMap_cons, List.count_append, induction, List.countP_cons, List.countP_cons]
      simp only [Link.ends, List.count_cons, List.count_nil]
      omega

theorem failure_points_listed :
    ListedOnce graph.linkEnds (fun id => 3 ≤ graph.degree id) graph.failurePoints := by
  have lists := (ListedOnce.erase_dups graph.linkEnds).filter fun id => 3 ≤ graph.degree id
  simp only [true_and, decide_eq_true_eq] at lists
  simpa only [failurePoints, failurePointDegree, count_link_ends] using lists

/-- The report is exact: it remarks every repetition of an id, every loose end of a link, every node
without links and every single point of failure, in that order, and nothing else. No node is both
isolated and a single point of failure. -/
theorem validate_exact (graph : Graph) :
    graph.validate.errors = graph.repeatedEntries.map Node.repeatedIssue ++
        graph.looseEnds.map LinkEnd.issue ∧
      graph.repeatedEntries.length + graph.nodeIds.eraseDups.length = graph.nodes.length ∧
      (∃ points, ListedOnce graph.linkEnds (fun id => 3 ≤ graph.degree id) points ∧
        graph.validate.warnings = graph.isolatedEntries.map Node.isolatedIssue ++
          points.map graph.failurePointIssue ∧
        ∀ node ∈ graph.isolatedEntries, node.id ∉ points) ∧
      (graph.validate.valid = true ↔ graph.validate.errors = []) := by
  have errors : graph.validate.errors = graph.repeatedNodeErrors ++
      graph.links.flatMap graph.danglingErrors := rfl
  have warnings : graph.validate.warnings =
      graph.isolationWarnings ++ graph.failurePointWarnings := rfl
  rw [repeated_node_errors_eq, dangling_errors_eq] at errors
  rw [isolation_warnings_eq] at warnings
  refine ⟨errors, length_repeated_by,
    ⟨graph.failurePoints, graph.failure_points_listed, ?_, ?_⟩, List.isEmpty_iff⟩
  · rw [warnings, failurePointWarnings]
    refine congrArg (_ ++ ·) (List.map_congr_left fun id _ => ?_)
    unfold failurePointIssue
    cases graph.node? id <;> rfl
  · intro node isolated point
    obtain ⟨_, untouched⟩ := List.mem_filter.1 isolated
    obtain ⟨joined, _⟩ := (graph.failure_points_listed.mem_iff node.id).1 point
    obtain ⟨link, member, touching⟩ := graph.mem_link_ends_iff.1 joined
    have none := (of_decide_eq_true untouched).2 link member
    rw [touching] at none
    cases none

/-- A loop lies with both its ends at its node, and one more end makes that a point of failure. -/
example :
    let graph := Graph.empty
      |>.addNode (.plain "a" .router "A")
      |>.addNode (.plain "b" .router "B")
      |>.addLink (.plain "loop" "a" "a")
      |>.addLink (.plain "out" "a" "ghost")
    graph.degree "a" = 3 ∧ graph.failurePoints = ["a"] ∧
      graph.looseEnds.map (·.node) = ["ghost"] ∧ graph.isolatedEntries.map (·.id) = ["b"] := by
  decide +kernel

end Graph

end NetworkTwin
