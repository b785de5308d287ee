import NetworkTwin.Topology.Blast
import NetworkTwin.Topology.Exposure
import NetworkTwin.Topology.Routing

/-!
The wiring of a topology: which link lies between which ends. The ends of a link are told apart when
it is declared and never again, so a change of links that leaves each between its ends, in one
direction or the other, leaves the blast radius and the exposure checks as they are.
-/

namespace NetworkTwin

/-- Whether a change leaves the id of each link, and its ends up to their order. -/
structure Link.KeepsWiring (change : Link → Link) : Prop where
  id : ∀ link, (change link).id = link.id
  ends : ∀ link,
    (change link).source = link.source ∧ (change link).target = link.target ∨
      (change link).source = link.target ∧ (change link).target = link.source

def Graph.mapLinks (change : Link → Link) (graph : Graph) : Graph :=
  { graph with links := graph.links.map change }

namespace Link.KeepsWiring

variable {change : Link → Link} (keeps : KeepsWiring change)

include keeps

theorem either (test : String → Bool) (link : Link) :
    (test (change link).source || test (change link).target) =
      (test link.source || test link.target) := by
  rcases keeps.ends link with ⟨source, target⟩ | ⟨source, target⟩
  · rw [source, target]
  · rw [source, target, Bool.or_comm]

theorem touches (link : Link) (node : String) :
    (change link).touches node = link.touches node :=
  keeps.either (· == node) link

/-- Of a node that a link does not touch, the other end would depend on the direction. -/
theorem other_end {link : Link} {node : String} (touched : link.touches node = true) :
    (change link).otherEnd node = link.otherEnd node := by
  unfold otherEnd
  rcases keeps.ends link with ⟨source, target⟩ | ⟨source, target⟩
  · rw [source, target]
  · rw [source, target]
    simp only [Link.touches, Bool.or_eq_true, beq_iff_eq] at touched ⊢
    rcases touched with rfl | rfl <;> split <;> simp_all

theorem hops_from (link : Link) (node : String) :
    (change link).hopsFrom node = link.hopsFrom node := by
  unfold hopsFrom
  rw [keeps.id]
  rcases keeps.ends link with ⟨source, target⟩ | ⟨source, target⟩
  · rw [source, target]
  · rw [source, target]
    by_cases fromHere : link.source = node
    · by_cases toHere : link.target = node
      · rw [fromHere, toHere]
      · simp [fromHere, toHere]
    · simp [fromHere]

theorem ids (links : List Link) : (links.map change).map (·.id) = links.map (·.id) := by
  rw [List.map_map]
  exact List.map_congr_left fun link _ => keeps.id link

variable (graph : Graph)

theorem links_touching (node : String) :
    (graph.mapLinks change).linksTouching node = (graph.linksTouching node).map change := by
  rw [Graph.linksTouching, Graph.linksTouching, Graph.mapLinks, List.filter_map]
  simp only [Function.comp_def, keeps.touches]

theorem closed_neighbourhood (node : String) :
    (graph.mapLinks change).closedNeighbourhood node = graph.closedNeighbourhood node := by
  have others : ∀ link ∈ graph.linksTouching node,
      (change link).otherEnd node = link.otherEnd node := fun link member =>
    keeps.other_end (List.mem_filter.1 member).2
  rw [Graph.closedNeighbourhood, Graph.closedNeighbourhood, keeps.links_touching, List.map_map]
  exact congrArg (fun ends => (node :: ends).eraseDups) (List.map_congr_left others)

theorem is_stranded (compromised : String) (node : Node) :
    (graph.mapLinks change).isStranded compromised node = graph.isStranded compromised node := by
  unfold Graph.isStranded
  dsimp only
  rw [keeps.links_touching, List.isEmpty_map, List.all_map]
  simp only [Function.comp_def, keeps.touches]

theorem blast_radius (node : String) :
    (graph.mapLinks change).blastRadius node = graph.blastRadius node := by
  have impact (affected : List String) :
      (graph.mapLinks change).impact node affected = graph.impact node affected := by
    rw [Graph.impact, Graph.impact, funext (keeps.is_stranded graph node)]
    rfl
  unfold Graph.blastRadius
  dsimp only
  rw [keeps.closed_neighbourhood, impact, keeps.links_touching, keeps.ids]
  rfl

theorem guest_links (node : String) :
    (graph.mapLinks change).guestLinks node = (graph.guestLinks node).map change := by
  rw [Graph.guestLinks, Graph.guestLinks, keeps.links_touching, List.filter_map]
  exact congrArg (List.map change) (List.filter_congr fun link _ => keeps.either graph.isGuest link)

theorem guest_check (node : Node) :
    (graph.mapLinks change).guestCheck node = graph.guestCheck node := by
  unfold Graph.guestCheck
  dsimp only
  rw [keeps.guest_links, List.isEmpty_map, keeps.ids]

theorem exposures : (graph.mapLinks change).exposures = graph.exposures := by
  unfold Graph.exposures
  simp only [keeps.guest_check]
  rfl

end Link.KeepsWiring

end NetworkTwin
