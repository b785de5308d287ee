import NetworkTwin.Proofs.Routing.Hops

/-!
Ids that a topology does not declare. Only declared nodes have neighbours, so no route leads on from
an id that is not declared, and a route can only end at one. Whether it does depends on the links:
from a declared node the neighbour over a live link is found whether it is declared or not.
-/

namespace NetworkTwin

namespace Graph

variable {graph : Graph} {source target : String} {route : Route}

/-- Whether routes from one id to another visit declared nodes only. -/
def RoutesDeclared (graph : Graph) : Prop :=
  ∀ source target route, source ≠ target → graph.findPath source target = some route →
    ∀ node ∈ route.path, graph.declares node = true

/-- A walk to another id is a walk to a declared node and one more live link from there. -/
theorem leads_last_hop_iff (different : source ≠ target) :
    (∃ route places, graph.Leads source target route places) ↔
      ∃ node link, graph.declares node = true ∧
        (∃ route places, graph.Leads source node route places) ∧
        link ∈ graph.liveLinks ∧ link.Joins node target := by
  constructor
  · rintro ⟨route, places, walk, ends, departs⟩
    cases walk with
    | stay => exact absurd (Route.stay_ends_at.1 ends) different
    | @extend route places node next place link walk lastEnds found live joins =>
        obtain rfl := Route.extend_ends_at.1 ends
        have leaves : ∀ visited ∈ route.path, graph.declares visited = true := by
          simpa [Route.extend] using departs
        have shorter : graph.Leads source node route places :=
          ⟨walk, lastEnds, fun visited member => leaves visited (List.dropLast_subset _ member)⟩
        exact ⟨node, link, leaves node lastEnds.mem, ⟨route, places, shorter⟩,
          mem_live_links.2 ⟨List.mem_of_getElem? found, live⟩, joins⟩
  · rintro ⟨node, link, declared, ⟨route, places, leads⟩, live, joins⟩
    obtain ⟨member, works⟩ := mem_live_links.1 live
    obtain ⟨place, found⟩ := List.getElem?_of_mem member
    have visits := ((leads_iff_connects declared).1 leads).declared
    refine ⟨_, _, leads.walk.extend leads.ends found works joins, Route.extend_ends_at.2 rfl, ?_⟩
    simpa [Route.extend] using visits

theorem find_path_last_hop_iff (different : source ≠ target) :
    (graph.findPath source target).isSome = true ↔
      ∃ node link, graph.declares node = true ∧ (graph.findPath source node).isSome = true ∧
        link ∈ graph.liveLinks ∧ link.Joins node target := by
  simp only [find_path_is_some_iff, leads_last_hop_iff different]

theorem find_path_departs (found : graph.findPath source target = some route) :
    ∀ node ∈ route.path.dropLast, graph.declares node = true := by
  obtain ⟨_, leads⟩ := find_path_eq_some_iff.1 found
  exact leads.departs

theorem find_path_from_undeclared (different : source ≠ target)
    (undeclared : graph.declares source = false) : graph.findPath source target = none := by
  rw [← Option.not_isSome_iff_eq_none, find_path_is_some_iff]
  rintro ⟨route, places, leads⟩
  rw [leads.source_declared different] at undeclared
  cases undeclared

theorem RoutesDeclared.across (declared : graph.RoutesDeclared) {link : Link} {node other : String}
    (live : link ∈ graph.liveLinks) (joins : link.Joins node other)
    (nodeDeclared : graph.declares node = true) : graph.declares other = true := by
  by_cases same : node = other
  · exact same ▸ nodeDeclared
  · have stays : (graph.findPath node node).isSome = true := by simp [findPath]
    have reached : (graph.findPath node other).isSome = true :=
      (find_path_last_hop_iff same).2 ⟨node, link, nodeDeclared, stays, live, joins⟩
    obtain ⟨route, found⟩ := Option.isSome_iff_exists.1 reached
    obtain ⟨_, leads⟩ := find_path_eq_some_iff.1 found
    exact declared node other route same found other leads.ends.mem

/-- Routes visit declared nodes only if and only if no live link has one end that is declared and one
that is not. -/
theorem routes_declared_iff :
    graph.RoutesDeclared ↔
      ∀ link ∈ graph.liveLinks, graph.declares link.source = graph.declares link.target := by
  constructor
  · intro declared link live
    exact Bool.eq_iff_iff.2
      ⟨declared.across live (Or.inl ⟨rfl, rfl⟩), declared.across live (Or.inr ⟨rfl, rfl⟩)⟩
  · intro alike source target route different found node member
    obtain ⟨_, leads⟩ := find_path_eq_some_iff.1 found
    rw [leads.ends.path_eq] at member
    rcases List.mem_append.1 member with left | last
    · exact leads.departs node left
    · obtain rfl := List.mem_singleton.1 last
      -- The last link leaves a declared node, so its other end has to be declared, too.
      obtain ⟨before, link, declared, _, live, joins⟩ :=
        (find_path_last_hop_iff different).1 (by rw [found]; rfl)
      have sameEnds := alike link live
      rcases joins with ⟨rfl, rfl⟩ | ⟨rfl, rfl⟩
      · rw [← sameEnds, declared]
      · rw [sameEnds, declared]

/-- Routes visit declared nodes only where no live link has just one end that is declared. In every
topology a route leaves declared nodes only, and an id that is not declared has no route to any
other; to it there is one if and only if a live link joins it to a declared node with a route. -/
theorem undeclared_ids_only_end_routes (graph : Graph) :
    (graph.RoutesDeclared ↔
        ∀ link ∈ graph.liveLinks, graph.declares link.source = graph.declares link.target) ∧
      ∀ source target, source ≠ target →
        (∀ route, graph.findPath source target = some route →
          route.EndsAt target ∧ ∀ node ∈ route.path.dropLast, graph.declares node = true) ∧
        (graph.declares source = false → graph.findPath source target = none) ∧
        (graph.declares target = false →
          ((graph.findPath source target).isSome = true ↔
            ∃ node link, graph.declares node = true ∧
              (graph.findPath source node).isSome = true ∧
              link ∈ graph.liveLinks ∧ link.Joins node target)) := by
  refine ⟨routes_declared_iff, fun source target different => ⟨?_, ?_, ?_⟩⟩
  · intro route found
    obtain ⟨_, leads⟩ := find_path_eq_some_iff.1 found
    exact ⟨leads.ends, find_path_departs found⟩
  · exact find_path_from_undeclared different
  · exact fun _ => find_path_last_hop_iff different

theorem undeclared_ids_only_end_routes_detour :
    "b" ≠ "ghost" ∧ detour.declares "ghost" = false ∧
      detour.findPath "ghost" "b" = none ∧ (detour.findPath "b" "ghost").isSome = true := by
  have different : "b" ≠ "ghost" := by decide
  have undeclared : detour.declares "ghost" = false := rfl
  obtain ⟨_, between⟩ := undeclared_ids_only_end_routes detour
  obtain ⟨_, fromGhost, _⟩ := between "ghost" "b" different.symm
  obtain ⟨_, _, toGhost⟩ := between "b" "ghost" different
  have link : Link.plain "out" "ghost" "b" ∈ detour.liveLinks := by simp [liveLinks, detour, Link.plain]
  exact ⟨different, undeclared, fromGhost undeclared, (toGhost undeclared).2
    ⟨"b", _, rfl, by simp [findPath], link, Or.inr ⟨rfl, rfl⟩⟩⟩

/-- An id that is not declared is reached from a declared node. -/
theorem find_path_to_undeclared :
    detour.declares "a" = true ∧ detour.declares "ghost" = false ∧
      detour.findPath "a" "ghost" = some ⟨["a", "ghost"], ["in"]⟩ ∧ ¬ detour.RoutesDeclared := by
  have found : detour.findPath "a" "ghost" = some ⟨["a", "ghost"], ["in"]⟩ := by decide +kernel
  refine ⟨rfl, rfl, found, fun declared => ?_⟩
  have ghost := declared "a" "ghost" _ (by decide) found "ghost" (by simp)
  exact absurd ghost (by decide)

end Graph

end NetworkTwin
