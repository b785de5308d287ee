import NetworkTwin.Proofs.Routing.Tables
import NetworkTwin.Proofs.Topology.Wiring

/-!
What routes depend on. A search asks a topology which ids it declares, which neighbours a node has,
and for how long it may go on. Topologies that answer alike have the same routes, and the same table
of what reaches what. That is so if they declare the same ids and their links differ in no more than
their direction and what only describes them; their tables of latencies are the same then, too.
-/

namespace NetworkTwin

/-- Whether a search cannot tell two topologies apart. -/
structure Graph.SearchedAlike (graph other : Graph) : Prop where
  declares : ∀ id, graph.declares id = other.declares id
  neighbours : ∀ node, graph.neighbours node = other.neighbours node
  limit : graph.searchLimit = other.searchLimit

theorem Search.run_congr {graph other : Graph}
    (alike : ∀ node, graph.neighbours node = other.neighbours node) (goal : Option String)
    (limit : Nat) (search : Search) :
    run graph goal limit search = run other goal limit search := by
  induction limit generalizing search with
  | zero => rfl
  | succ limit induction =>
      rcases search with ⟨settled, _ | ⟨step, waiting⟩⟩
      · rfl
      · simp only [run, expand, alike, induction]

/-- Whether two topologies have the same routes and tables. -/
structure Graph.RoutedAlike (graph other : Graph) : Prop where
  findPath : ∀ source target, graph.findPath source target = other.findPath source target
  reachability : graph.reachability = other.reachability
  latencies : graph.latencies = other.latencies

namespace Graph.SearchedAlike

variable {graph other : Graph} (alike : graph.SearchedAlike other)

include alike

theorem explore_eq (source : String) (goal : Option String) :
    graph.explore source goal = other.explore source goal := by
  rw [explore, explore, alike.declares, alike.limit, Search.run_congr alike.neighbours]

theorem find_path_eq (source target : String) :
    graph.findPath source target = other.findPath source target := by
  rw [findPath, findPath, alike.explore_eq]

/-- Neither the order of the nodes nor what else there is of them comes into a table. -/
theorem tabulate_eq {β : Type} (entry : String → Search → String → β) :
    graph.tabulate entry = other.tabulate entry := by
  have ids (id : String) : id ∈ graph.nodeIds ↔ id ∈ other.nodeIds := by
    rw [← List.contains_iff_mem, ← List.contains_iff_mem]
    exact Bool.eq_iff_iff.1 (alike.declares id)
  simp only [Graph.tabulate_eq, alike.explore_eq]
  rw [Dictionary.ofList_map_congr ids]
  simp only [Dictionary.ofList_map_congr ids]

theorem routed_alike (latency : ∀ ids, graph.pathLatency ids = other.pathLatency ids) :
    graph.RoutedAlike other := by
  refine ⟨alike.find_path_eq, alike.tabulate_eq _, ?_⟩
  rw [latencies, latencies, alike.tabulate_eq, funext latency]

end Graph.SearchedAlike

/-- Whether a change leaves of each link what routes depend on. -/
structure Link.KeepsWorking (change : Link → Link) : Prop extends Link.KeepsWiring change where
  failed : ∀ link, (change link).failed = link.failed
  latency : ∀ link, (change link).latency = link.latency

namespace Link.KeepsWorking

variable {change : Link → Link} (keeps : KeepsWorking change) {graph other : Graph}
  (links : graph.links = other.links.map change)

include keeps links

theorem live_links : graph.liveLinks = other.liveLinks.map change := by
  rw [Graph.liveLinks, Graph.liveLinks, links, List.filter_map]
  simp only [Function.comp_def, keeps.failed]

theorem searched_alike (declares : ∀ id, graph.declares id = other.declares id) :
    graph.SearchedAlike other := by
  have live := keeps.live_links links
  refine ⟨declares, fun node => ?_, ?_⟩
  · rw [Graph.neighbours, Graph.neighbours, declares, live, List.flatMap_map]
    simp only [keeps.hops_from]
  · rw [Graph.searchLimit, Graph.searchLimit, live, List.length_map]

theorem path_latency (ids : List String) : graph.pathLatency ids = other.pathLatency ids := by
  have found (id : String) : graph.link? id = (other.link? id).map change := by
    rw [Graph.link?, Graph.link?, links, List.find?_map]
    simp only [Function.comp_def, keeps.id]
  unfold Graph.pathLatency
  simp only [found, Option.map_map, Function.comp_def, keeps.latency]

theorem routed_alike (declares : ∀ id, graph.declares id = other.declares id) :
    graph.RoutedAlike other :=
  (keeps.searched_alike links declares).routed_alike (keeps.path_latency links)

end Link.KeepsWorking

end NetworkTwin
