import NetworkTwin.Proofs.Routing.Tables
import NetworkTwin.Sample
import NetworkTwin.Topology.Structure

/-!
Latencies along routes. A search walks over links, but a route only tells their ids, and the table of
latencies looks every id up again. It finds the first link with the id, be it failed or elsewhere. So
the table holds the latencies of the links that were walked over where ids tell them apart, and it
may hold others where they do not.
-/

namespace NetworkTwin

/-- The time it takes to go over links, added in order. -/
def totalLatency (walked : List Link) : Float := (walked.map (·.latency)).foldl (· + ·) 0.0

namespace Graph

/-- The links that a route goes over: none of them has failed, they have the ids that the route tells,
and each of them joins the node before it to the node after it. -/
structure GoesOver (graph : Graph) (route : Route) (walked : List Link) : Prop where
  live : ∀ link ∈ walked, link ∈ graph.links ∧ link.failed = false
  ids : walked.map (·.id) = route.links
  joins : ∀ index link, walked[index]? = some link → ∃ first second,
    route.path[index]? = some first ∧ route.path[index + 1]? = some second ∧
      link.Joins first second

/-- Whether looking up the id of a link that has not failed gives the latency of this link. -/
def TellsLatencies (graph : Graph) : Prop :=
  ∀ link ∈ graph.links, link.failed = false →
    (graph.link? link.id).map (·.latency) = some link.latency

variable {graph : Graph} {source target : String} {route : Route}

theorem tells_latencies_of_nodup (distinct : (graph.links.map (·.id)).Nodup) :
    graph.TellsLatencies := by
  intro link member _
  rw [link_of_mem distinct member]
  rfl

theorem Walk.goes_over {places : List Nat} (walk : graph.Walk source route places) :
    ∃ walked, graph.GoesOver route walked := by
  have along (index : Fin places.length) : ∃ link ∈ graph.links, link.failed = false ∧
      route.links[index.1]? = some link.id ∧ ∃ first second, route.path[index.1]? = some first ∧
        route.path[index.1 + 1]? = some second ∧ link.Joins first second := by
    obtain ⟨link, first, second, found, live, joins, id, left, right⟩ :=
      walk.joins_along index (List.getElem?_eq_getElem index.2)
    exact ⟨link, List.mem_of_getElem? found, live, id, first, second, left, right, joins⟩
  choose linkAt member live id joins using along
  refine ⟨List.ofFn linkAt, ?_, ?_, ?_⟩
  · intro link walked
    obtain ⟨index, rfl⟩ := List.mem_ofFn.1 walked
    exact ⟨member index, live index⟩
  · apply List.ext_getElem?
    intro index
    rw [List.getElem?_map, List.getElem?_ofFn]
    split
    · rename_i bound
      exact (id ⟨index, bound⟩).symm
    · rename_i beyond
      rw [List.getElem?_eq_none]
      · rfl
      · rw [walk.links_length]
        omega
  · intro index link here
    rw [List.getElem?_ofFn] at here
    split at here
    · rename_i bound
      obtain rfl := Option.some.inj here
      exact joins ⟨index, bound⟩
    · cases here

/-- Where ids tell latencies, adding up what the ids of a route tell is adding up the links. -/
theorem GoesOver.path_latency_eq {walked : List Link} (goes : graph.GoesOver route walked)
    (told : graph.TellsLatencies) : graph.pathLatency route.links = totalLatency walked := by
  have latencies : (route.links.filterMap fun id => (graph.link? id).map (·.latency)) =
      walked.map (·.latency) := by
    rw [← goes.ids, List.filterMap_map, ← List.filterMap_eq_map]
    apply List.filterMap_congr
    intro link member
    obtain ⟨inGraph, live⟩ := goes.live link member
    exact told link inGraph live
  rw [pathLatency, latencies, totalLatency]

theorem latencies_of_route (sourceDeclared : graph.declares source = true)
    (targetDeclared : graph.declares target = true) (different : source ≠ target)
    (found : graph.findPath source target = some route) :
    (graph.latencies.get? source).bind (·.get? target) = some (graph.pathLatency route.links) := by
  rw [latencies, (graph.tabulate_tabulates _).entries source target sourceDeclared targetDeclared,
    if_neg different, explore_route_eq_find_path sourceDeclared, found]

/-- If looking up ids gives the right latencies, the table holds the time it takes to go over the
links that were walked over to find the route. -/
theorem latencies_of_links_walked (told : graph.TellsLatencies)
    (sourceDeclared : graph.declares source = true)
    (targetDeclared : graph.declares target = true) (different : source ≠ target)
    (found : graph.findPath source target = some route) :
    ∃ walked, graph.GoesOver route walked ∧
      (graph.latencies.get? source).bind (·.get? target) = some (totalLatency walked) := by
  obtain ⟨places, leads⟩ := find_path_eq_some_iff.1 found
  obtain ⟨walked, goes⟩ := leads.walk.goes_over
  refine ⟨walked, goes, ?_⟩
  rw [latencies_of_route sourceDeclared targetDeclared different found, goes.path_latency_eq told]

theorem latencies_of_links_walked_office :
    Sample.office.TellsLatencies ∧ ∃ walked, Sample.office.GoesOver
        ⟨["isp", "fw1", "core", "web1"], ["l-isp", "l-core", "l-web"]⟩ walked ∧
      (Sample.office.latencies.get? "isp").bind (·.get? "web1") = some (totalLatency walked) := by
  have told : Sample.office.TellsLatencies := tells_latencies_of_nodup (by decide +kernel)
  exact ⟨told, latencies_of_links_walked told rfl rfl (by decide) (by decide +kernel)⟩

/-- Two links in a row with one id, the second slower than the first. -/
def namesakes : Graph :=
  Graph.empty
    |>.addNode (.plain "a" .router "A")
    |>.addNode (.plain "b" .switch "B")
    |>.addNode (.plain "c" .server "C")
    |>.addLink ((Link.plain "x" "a" "b").withLatency 1.0)
    |>.addLink ((Link.plain "x" "b" "c").withLatency 5.0)

/-- A valid topology may have links with one id, and then the latency of another link may be told. -/
theorem latencies_not_of_links_walked :
    namesakes.validate.valid = true ∧ namesakes.declares "b" = true ∧
      namesakes.declares "c" = true ∧
      namesakes.findPath "b" "c" = some ⟨["b", "c"], ["x"]⟩ ∧
      ¬ ∃ walked, namesakes.GoesOver ⟨["b", "c"], ["x"]⟩ walked ∧
        (namesakes.latencies.get? "b").bind (·.get? "c") = some (totalLatency walked) := by
  refine ⟨by decide +kernel, rfl, rfl, by decide +kernel, ?_⟩
  rintro ⟨walked, goes, told⟩
  have table : (namesakes.latencies.get? "b").bind (·.get? "c") = some 1.0 := by decide +kernel
  obtain ⟨link, rfl, _⟩ := List.map_eq_singleton_iff.1 goes.ids
  obtain ⟨first, second, atFirst, atSecond, joins⟩ := goes.joins 0 link rfl
  obtain rfl : "b" = first := Option.some.inj atFirst
  obtain rfl : "c" = second := Option.some.inj atSecond
  have members : link = (Link.plain "x" "a" "b").withLatency 1.0 ∨
      link = (Link.plain "x" "b" "c").withLatency 5.0 := by
    simpa [namesakes, Graph.empty, addNode, addLink] using (goes.live link (by simp)).1
  rcases members with rfl | rfl
  · rcases joins with ⟨leaves, _⟩ | ⟨leaves, _⟩ <;> exact absurd leaves (by decide)
  · rw [table] at told
    exact absurd told (by decide +kernel)

end Graph

end NetworkTwin
