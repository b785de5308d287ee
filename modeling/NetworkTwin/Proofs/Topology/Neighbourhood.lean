import Mathlib.Data.List.Nodup
import Mathlib.Data.List.Perm.Subperm
import NetworkTwin.Proofs.Routing.Walk
import NetworkTwin.Proofs.Text.Occurrences
import NetworkTwin.Sample
import NetworkTwin.Topology.Blast

/-!
The blast radius as a neighbourhood. Links count as they were laid, failed or not: affected are a
node and the other ends of its links, so that nodes affect each other or not at all. A node is
stranded if all its links go when those of the compromised node are removed. Every link that it has
leads to that node then, whatever loops and parallel links there are, so it is one of the affected
nodes, and the score stays within bounds that depend on their number alone.
-/

namespace NetworkTwin

namespace Graph

def unplug (graph : Graph) (node : String) : Graph :=
  { graph with links := graph.links.filter fun link => !link.touches node }

/-- Whether another node has links, but none once those of the compromised node are removed. -/
def Strands (graph : Graph) (compromised : String) (node : Node) : Prop :=
  node.id ≠ compromised ∧ graph.linksTouching node.id ≠ [] ∧
    (graph.unplug compromised).linksTouching node.id = []

instance (graph : Graph) (compromised : String) (node : Node) :
    Decidable (graph.Strands compromised node) :=
  inferInstanceAs (Decidable (_ ∧ _ ∧ _))

/-- What the affected nodes of a compromised node add up to: ten for each, the weights of those that
are declared, and twenty for each stranded node. -/
def points (graph : Graph) (compromised : String) (affected : List String) : Nat :=
  10 * affected.length +
    Blast.total ((graph.nodes.filter fun node => node.id ∈ affected).map fun node =>
      Blast.weight node.criticality) +
    20 * (graph.nodes.filter fun node => graph.Strands compromised node).length

/-- Whether a node is affected if another one is compromised. -/
def Affects (graph : Graph) (compromised other : String) : Prop :=
  ∃ report, graph.blastRadius compromised = .ok report ∧ other ∈ report.affectedNodes

end Graph

/-- What a report on a compromised node has to say. -/
structure BlastReport.IsBlastOf (report : BlastReport) (graph : Graph) (node : String) : Prop where
  compromised : report.compromised = node
  nodes : ∃ others, report.affectedNodes = node :: others ∧
    ListedOnce ((graph.linksTouching node).map fun link => link.otherEnd node) (· ≠ node) others
  links : report.affectedLinks = (graph.linksTouching node).map (·.id)
  score : report.score = UInt64.ofNat (graph.points node report.affectedNodes)

theorem BlastReport.IsBlastOf.unique {graph : Graph} {node : String} {report other : BlastReport}
    (blast : report.IsBlastOf graph node) (blastToo : other.IsBlastOf graph node) :
    report = other := by
  obtain ⟨compromised, ⟨ends, listed, lists⟩, links, score⟩ := blast
  obtain ⟨compromisedToo, ⟨endsToo, listedToo, listsToo⟩, linksToo, scoreToo⟩ := blastToo
  have nodes : report.affectedNodes = other.affectedNodes := by
    rw [listed, listedToo, lists.unique listsToo]
  rw [nodes] at score
  rcases report with ⟨_, _, _, _⟩
  rcases other with ⟨_, _, _, _⟩
  rw [BlastReport.mk.injEq]
  exact ⟨compromised.trans compromisedToo.symm, nodes, links.trans linksToo.symm,
    score.trans scoreToo.symm⟩

/-- The other end of a link at a node is the node that the link joins to it. For a loop this is the
node itself. -/
theorem Link.other_end_iff {link : Link} {node other : String} :
    (link.touches node = true ∧ link.otherEnd node = other) ↔ link.Joins node other := by
  simp only [touches, otherEnd, Joins, Bool.or_eq_true, beq_iff_eq]
  by_cases fromHere : link.source = node
  · rw [if_pos fromHere]
    constructor
    · rintro ⟨_, there⟩
      exact Or.inl ⟨fromHere, there⟩
    · rintro (⟨_, there⟩ | ⟨back, here⟩)
      · exact ⟨Or.inl fromHere, there⟩
      · exact ⟨Or.inl fromHere, (here.trans fromHere.symm).trans back⟩
  · rw [if_neg fromHere]
    simp only [fromHere, false_and, false_or]
    exact and_comm

namespace Blast

theorem weight_le (severity : Severity) : weight severity ≤ 50 := by
  cases severity <;> decide

theorem total_perm {first second : List Nat} (permuted : first.Perm second) :
    total first = total second :=
  permuted.foldr_eq' (fun first _ second _ rest => Nat.add_left_comm second first rest) 0

theorem total_le {scores : List Nat} {most : Nat} (atMost : ∀ score ∈ scores, score ≤ most) :
    total scores ≤ most * scores.length := by
  induction scores with
  | nil => exact Nat.zero_le _
  | cons score rest induction =>
      obtain ⟨first, others⟩ := List.forall_mem_cons.1 atMost
      have later := induction others
      change score + total rest ≤ most * (rest.length + 1)
      rw [Nat.mul_add, Nat.mul_one]
      omega

end Blast

namespace Graph

variable {graph : Graph} {node other : String}

theorem mem_closed_neighbourhood_iff :
    other ∈ graph.closedNeighbourhood node ↔
      other = node ∨ ∃ link ∈ graph.links, link.Joins node other := by
  simp only [closedNeighbourhood, linksTouching, List.mem_eraseDups, List.mem_cons, List.mem_map,
    List.mem_filter, and_assoc, Link.other_end_iff]

theorem mem_closed_neighbourhood_symm :
    other ∈ graph.closedNeighbourhood node ↔ node ∈ graph.closedNeighbourhood other := by
  rw [mem_closed_neighbourhood_iff, mem_closed_neighbourhood_iff]
  refine or_congr eq_comm (exists_congr fun link => and_congr_right fun _ => ?_)
  exact ⟨Link.Joins.symm, Link.Joins.symm⟩

theorem closed_neighbourhood_eq (graph : Graph) (node : String) :
    ∃ others, graph.closedNeighbourhood node = node :: others ∧
      ListedOnce ((graph.linksTouching node).map fun link => link.otherEnd node) (· ≠ node)
        others := by
  have lists := ListedOnce.erase_dups
    (node :: (graph.linksTouching node).map fun link => link.otherEnd node)
  rw [List.eraseDups_cons] at lists
  exact ⟨_, List.eraseDups_cons, lists.tail⟩

theorem is_stranded_iff {node : Node} :
    graph.isStranded other node = true ↔ graph.Strands other node := by
  simp only [isStranded, Strands, unplug, linksTouching, Bool.and_eq_true, bne_iff_ne,
    Bool.not_eq_true', List.isEmpty_eq_false_iff, and_assoc]
  refine and_congr_right fun _ => and_congr_right fun _ => ?_
  rw [List.filter_eq_nil_iff, List.all_eq_true]
  simp only [List.mem_filter, Bool.not_eq_true', and_imp]
  refine forall_congr' fun link => forall_congr' fun _ => ?_
  cases link.touches node.id <;> cases link.touches other <;> simp

theorem Strands.affected {stranded : Node} (strands : graph.Strands node stranded) :
    stranded.id ∈ graph.closedNeighbourhood node := by
  obtain ⟨different, wired, lost⟩ := strands
  obtain ⟨link, touching⟩ := List.exists_mem_of_ne_nil _ wired
  obtain ⟨member, atStranded⟩ := List.mem_filter.1 touching
  have atNode : link.touches node = true := by
    by_contra spared
    have left : link ∈ (graph.unplug node).linksTouching stranded.id :=
      List.mem_filter.2 ⟨List.mem_filter.2 ⟨member, by simpa using spared⟩, atStranded⟩
    rw [lost] at left
    cases left
  rw [mem_closed_neighbourhood_iff]
  refine Or.inr ⟨link, member, ?_⟩
  simp only [Link.touches, Bool.or_eq_true, beq_iff_eq] at atStranded atNode
  rcases atNode with fromNode | toNode
  · rcases atStranded with fromStranded | toStranded
    · exact absurd (fromStranded.symm.trans fromNode) different
    · exact Or.inl ⟨fromNode, toStranded⟩
  · rcases atStranded with fromStranded | toStranded
    · exact Or.inr ⟨fromStranded, toNode⟩
    · exact absurd (toStranded.symm.trans toNode) different

theorem length_filter_le_of_ids (distinct : graph.nodeIds.Nodup) {test : Node → Bool}
    {ids : List String} (within : ∀ node ∈ graph.nodes, test node = true → node.id ∈ ids) :
    (graph.nodes.filter test).length ≤ ids.length := by
  have sublist := (List.filter_sublist (p := test) (l := graph.nodes)).map Node.id
  have subset : (graph.nodes.filter test).map Node.id ⊆ ids := by
    intro id member
    obtain ⟨node, kept, rfl⟩ := List.mem_map.1 member
    obtain ⟨declared, passes⟩ := List.mem_filter.1 kept
    exact within node declared passes
  rw [← List.length_map (f := Node.id)]
  exact ((distinct.sublist sublist).subperm subset).length_le

theorem filter_map_node_perm (distinct : graph.nodeIds.Nodup) {affected : List String}
    (once : affected.Nodup) :
    (affected.filterMap graph.node?).Perm
      (graph.nodes.filter fun node => node.id ∈ affected) := by
  have found {id : String} {node : Node} (atId : graph.node? id = some node) :
      node ∈ graph.nodes ∧ node.id = id :=
    ⟨List.mem_of_find?_eq_some atId, by simpa using List.find?_some atId⟩
  rw [List.perm_ext_iff_of_nodup]
  · intro node
    simp only [List.mem_filterMap, List.mem_filter, decide_eq_true_eq]
    constructor
    · rintro ⟨id, member, atId⟩
      obtain ⟨declared, rfl⟩ := found atId
      exact ⟨declared, member⟩
    · rintro ⟨declared, member⟩
      exact ⟨node.id, member, node_of_mem distinct declared⟩
  · refine once.filterMap ?_
    intro first second node atFirst atSecond
    exact (found atFirst).2.symm.trans (found atSecond).2
  · exact (List.Nodup.of_map Node.id distinct).filter _

theorem impact_eq (distinct : graph.nodeIds.Nodup) (node : String) :
    graph.impact node (graph.closedNeighbourhood node) =
      graph.points node (graph.closedNeighbourhood node) := by
  have once : (graph.closedNeighbourhood node).Nodup := (ListedOnce.erase_dups _).nodup
  have perm := filter_map_node_perm distinct once
  have stranded : (graph.isStranded node) = fun other => decide (graph.Strands node other) := by
    funext other
    rw [Bool.eq_iff_iff, is_stranded_iff, decide_eq_true_eq]
  unfold impact points
  rw [Blast.total_perm (perm.map _), stranded]
  rfl

/-- Every affected node counts ten and its weight, which is fifty at most, and all but the first may
be stranded. -/
theorem points_bounds (distinct : graph.nodeIds.Nodup) (node : String) :
    let affected := graph.closedNeighbourhood node
    10 * affected.length ≤ graph.points node affected ∧
      graph.points node affected ≤ 80 * affected.length - 20 := by
  intro affected
  obtain ⟨others, listed, lists⟩ := graph.closed_neighbourhood_eq node
  have length : affected.length = others.length + 1 := congrArg List.length listed
  have declared : (graph.nodes.filter fun other => other.id ∈ affected).length ≤
      affected.length := by
    refine length_filter_le_of_ids distinct fun other _ inside => ?_
    simpa using inside
  have stranded : (graph.nodes.filter fun other => graph.Strands node other).length ≤
      others.length := by
    refine length_filter_le_of_ids distinct fun other _ inside => ?_
    have strands : graph.Strands node other := by simpa using inside
    have member := strands.affected
    rw [listed] at member
    exact (List.mem_cons.1 member).resolve_left strands.1
  have weight : ∀ score ∈ (graph.nodes.filter fun other => other.id ∈ affected).map fun other =>
      Blast.weight other.criticality, score ≤ 50 := by
    intro score member
    obtain ⟨other, _, rfl⟩ := List.mem_map.1 member
    exact Blast.weight_le other.criticality
  have weights := Blast.total_le weight
  rw [List.length_map] at weights
  unfold points
  omega

theorem affects_iff (declared : graph.declares node = true) :
    graph.Affects node other ↔ other ∈ graph.closedNeighbourhood node := by
  unfold Affects blastRadius
  rw [if_pos declared]
  simp

/-- The blast radius of a declared node is its closed neighbourhood: there is one report that says
what it has to say, being affected is mutual, and the score is bounded by the number of affected
nodes. The score is exact unless it is more than 64 bits can count. -/
theorem blast_radius_closed_neighbourhood (distinct : graph.nodeIds.Nodup)
    (declared : graph.declares node = true) :
    ∃ report, graph.blastRadius node = .ok report ∧
      (∀ other : BlastReport, other.IsBlastOf graph node ↔ other = report) ∧
      (∀ other, graph.declares other = true →
        (graph.Affects node other ↔ graph.Affects other node)) ∧
      (∀ other ∈ graph.nodes, graph.Strands node other → other.id ∈ report.affectedNodes) ∧
      let affected := report.affectedNodes.length
      let points := graph.points node report.affectedNodes
      10 * affected ≤ points ∧ points ≤ 80 * affected - 20 ∧
        (points < UInt64.size → report.score.toNat = points) := by
  let affected := graph.closedNeighbourhood node
  let report : BlastReport :=
    { compromised := node, affectedNodes := affected,
      affectedLinks := (graph.linksTouching node).map (·.id),
      score := UInt64.ofNat (graph.impact node affected) }
  have score : report.score = UInt64.ofNat (graph.points node affected) :=
    congrArg UInt64.ofNat (impact_eq distinct node)
  have blast : report.IsBlastOf graph node :=
    ⟨rfl, graph.closed_neighbourhood_eq node, rfl, score⟩
  have bounds := points_bounds distinct node
  refine ⟨report, if_pos declared, ?_, ?_, ?_, bounds.1, bounds.2, ?_⟩
  · intro other
    constructor
    · intro blastToo
      exact blastToo.unique blast
    · rintro rfl
      exact blast
  · intro other otherDeclared
    rw [affects_iff declared, affects_iff otherDeclared]
    exact mem_closed_neighbourhood_symm
  · intro other _ strands
    exact strands.affected
  · intro fits
    rw [score]
    exact UInt64.toNat_ofNat_of_lt' fits

/-- Three of the five neighbours of the core switch have no other link. -/
theorem blast_radius_closed_neighbourhood_office :
    let report : BlastReport := {
      compromised := "core"
      affectedNodes := ["core", "fw1", "web1", "db1", "ws1", "adm1"]
      affectedLinks := ["l-core", "l-web", "l-db", "l-ws", "l-adm"]
      score := 260 }
    Sample.office.nodeIds.Nodup ∧ Sample.office.declares "core" = true ∧
      Sample.office.blastRadius "core" = .ok report ∧ report.IsBlastOf Sample.office "core" ∧
      Sample.office.Affects "web1" "core" := by
  intro report
  have distinct : Sample.office.nodeIds.Nodup := by decide +kernel
  have declared : Sample.office.declares "core" = true := by decide +kernel
  have shown : Sample.office.blastRadius "core" = .ok report := by rfl
  obtain ⟨made, found, only, both, _⟩ := blast_radius_closed_neighbourhood distinct declared
  obtain rfl : report = made := Except.ok.inj (shown.symm.trans found)
  have affected : Sample.office.Affects "core" "web1" := ⟨report, shown, by decide⟩
  exact ⟨distinct, declared, shown, (only report).2 rfl,
    (both "web1" (by decide +kernel)).1 affected⟩

end Graph

end NetworkTwin
