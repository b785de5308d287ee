import Mathlib.Data.String.Basic
import NetworkTwin.Proofs.Routing.Congruence
import NetworkTwin.Run.Attack

/-!
The direction of links and the order of nodes. A link is declared from one end to the other, but
whatever is read of it treats its ends alike. So a topology whose links all run from the lesser to
the greater id gives the same routes and analyses, and it does not tell which links were turned
before. Of the nodes, routes and tables read no more than which there are.
-/

namespace NetworkTwin

namespace Link

def turned (link : Link) : Link := { link with source := link.target, target := link.source }

/-- The link from the lesser to the greater of its ends. -/
def undirected (link : Link) : Link :=
  { link with
    source := min link.source link.target, target := max link.source link.target }

theorem undirected_turned (link : Link) : link.turned.undirected = link.undirected := by
  simp only [turned, undirected, min_comm, max_comm]

theorem undirected_eq (link : Link) : link.undirected = link ∨ link.undirected = link.turned := by
  rcases le_total link.source link.target with order | order
  · left
    rw [undirected, min_eq_left order, max_eq_right order]
  · right
    rw [undirected, min_eq_right order, max_eq_left order]
    rfl

theorem undirected_keeps_working : KeepsWorking undirected where
  id _ := rfl
  ends link := by
    rcases link.undirected_eq with same | turned
    · rw [same]
      exact Or.inl ⟨rfl, rfl⟩
    · rw [turned]
      exact Or.inr ⟨rfl, rfl⟩
  failed _ := rfl
  latency _ := rfl

end Link

namespace Graph

def turnLinks (turns : Nat → Bool) (graph : Graph) : Graph :=
  { graph with
    links := graph.links.mapIdx fun place link => if turns place then link.turned else link }

/-- The topology with all links from the lesser to the greater of their ends. -/
def undirected (graph : Graph) : Graph := graph.mapLinks Link.undirected

theorem undirected_turn_links (graph : Graph) (turns : Nat → Bool) :
    (graph.turnLinks turns).undirected = graph.undirected := by
  have each (place : Nat) (link : Link) :
      (if turns place then link.turned else link).undirected = link.undirected := by
    split
    · exact link.undirected_turned
    · rfl
  rw [undirected, undirected, mapLinks, mapLinks, turnLinks]
  congr 1
  apply List.ext_getElem?
  intro place
  rw [List.getElem?_map, List.getElem?_map, List.getElem?_mapIdx, Option.map_map]
  exact Option.map_congr fun link _ => each place link

/-- Whether two topologies have the same routes and tables, and come out of every analysis alike. -/
structure AnalysedAlike (graph other : Graph) : Prop extends graph.RoutedAlike other where
  blastRadius : ∀ node, graph.blastRadius node = other.blastRadius node
  resolveAttack : ∀ attack, graph.resolveAttack attack = other.resolveAttack attack
  guestCheck : ∀ node, graph.guestCheck node = other.guestCheck node
  exposures : graph.exposures = other.exposures

variable (graph : Graph)

theorem routed_alike_undirected : graph.undirected.RoutedAlike graph :=
  Link.undirected_keeps_working.routed_alike rfl fun _ => rfl

theorem resolve_attack_undirected (attack : AttackEvent) :
    graph.undirected.resolveAttack attack = graph.resolveAttack attack := by
  unfold resolveAttack
  simp only [graph.routed_alike_undirected.findPath]
  rfl

theorem analysed_alike_undirected : graph.undirected.AnalysedAlike graph where
  toRoutedAlike := graph.routed_alike_undirected
  blastRadius := Link.undirected_keeps_working.blast_radius graph
  resolveAttack := graph.resolve_attack_undirected
  guestCheck := Link.undirected_keeps_working.guest_check graph
  exposures := Link.undirected_keeps_working.exposures graph

theorem AnalysedAlike.of_common {whole graph other : Graph} (left : whole.AnalysedAlike graph)
    (right : whole.AnalysedAlike other) : graph.AnalysedAlike other where
  findPath source target := (left.findPath source target).symm.trans (right.findPath source target)
  reachability := left.reachability.symm.trans right.reachability
  latencies := left.latencies.symm.trans right.latencies
  blastRadius node := (left.blastRadius node).symm.trans (right.blastRadius node)
  resolveAttack attack := (left.resolveAttack attack).symm.trans (right.resolveAttack attack)
  guestCheck node := (left.guestCheck node).symm.trans (right.guestCheck node)
  exposures := left.exposures.symm.trans right.exposures

/-- No analysis tells which links were turned: once undirected, the topologies are one. -/
theorem analysed_alike_turn_links (turns : Nat → Bool) :
    (graph.turnLinks turns).AnalysedAlike graph := by
  have turned := (graph.turnLinks turns).analysed_alike_undirected
  rw [undirected_turn_links] at turned
  exact turned.of_common graph.analysed_alike_undirected

theorem routed_alike_reorder {nodes : List Node} (order : nodes.Perm graph.nodes) :
    ({ graph with nodes := nodes } : Graph).RoutedAlike graph := by
  have declares (id : String) :
      ({ graph with nodes := nodes } : Graph).declares id = graph.declares id := by
    rw [Bool.eq_iff_iff, Graph.declares, Graph.declares, List.contains_iff_mem,
      List.contains_iff_mem]
    exact (order.map (·.id)).mem_iff
  have unchanged : Link.KeepsWorking id :=
    ⟨⟨fun _ => rfl, fun _ => Or.inl ⟨rfl, rfl⟩⟩, fun _ => rfl, fun _ => rfl⟩
  exact unchanged.routed_alike (List.map_id graph.links).symm declares

/-- Links are undirected, whichever of them are turned, and the order of the nodes is irrelevant to
routes and tables. -/
theorem link_direction_and_node_order_irrelevant (graph : Graph) :
    (∀ turns, (graph.turnLinks turns).AnalysedAlike graph) ∧
      ∀ nodes : List Node, nodes.Perm graph.nodes →
        ({ graph with nodes := nodes } : Graph).RoutedAlike graph := by
  constructor
  · exact graph.analysed_alike_turn_links
  · intro nodes order
    exact graph.routed_alike_reorder order

theorem link_direction_and_node_order_irrelevant_detour :
    (detour.turnLinks fun place => place % 2 == 0).AnalysedAlike detour ∧
      detour.nodes.reverse.Perm detour.nodes ∧
      ({ detour with nodes := detour.nodes.reverse } : Graph).RoutedAlike detour := by
  obtain ⟨turned, reordered⟩ := link_direction_and_node_order_irrelevant detour
  have order := detour.nodes.reverse_perm
  exact ⟨turned _, order, reordered _ order⟩

end Graph

end NetworkTwin
