import Mathlib.Data.List.Nodup
import NetworkTwin.Proofs.Routing.Completion

/-!
The routes that are found. Going back from a settled place over the parents gives the route of the
walk that was charted there, so between any two ids the route that is found is that of the first
walk, and none is found only if no walk leads from one to the other. This holds of every topology,
with repeated ids, loops, parallel links and links that end nowhere.
-/

namespace NetworkTwin

namespace SearchTree

variable {graph : Graph} {source : String} {settled : List Mark}

/-- The trace of a settled place, read from the source on, is the walk of its mark. -/
theorem trace_eq_route (tree : SearchTree graph source settled) (place : Nat) {mark : Mark}
    (here : settled[place]? = some mark) :
    (Search.trace (settled.map (·.step)) place).reverse.map (·.node) = mark.route.path ∧
      (Search.trace (settled.map (·.step)) place).reverse.filterMap (·.link) =
        mark.route.links := by
  induction place using Nat.strongRecOn generalizing mark with
  | ind place induction =>
      have step : (settled.map (·.step))[place]? = some mark.step := by simp [here]
      unfold Search.trace
      rw [step]
      cases tree.grows place mark here with
      | root => exact ⟨rfl, rfl⟩
      | @extend before parent linkPlace hop found =>
          -- A parent is settled earlier, so the trace goes on to it and ends only at the source.
          have earlier : parent < place := by
            have bound := (List.getElem?_eq_some_iff.1 found).1
            rw [List.length_take] at bound
            omega
          rw [List.getElem?_take_of_lt earlier] at found
          obtain ⟨path, links⟩ := induction parent earlier found
          simp only [Mark.step_extend, if_pos earlier, List.reverse_cons, List.map_append,
            List.filterMap_append, path, links]
          exact ⟨rfl, rfl⟩

theorem mark_unique (tree : SearchTree graph source settled) {first second : Mark}
    (firstMember : first ∈ settled) (secondMember : second ∈ settled)
    (same : first.node = second.node) : first = second :=
  List.inj_on_of_nodup_map tree.distinct firstMember secondMember same

end SearchTree

namespace Search

variable {graph : Graph} {source : String} {settled : List Mark} {search : Search}

theorem route_eq_some_iff (tree : SearchTree graph source settled)
    (charted : search.settled = settled.map (·.step)) {node : String} {route : Route} :
    search.route? node = some route ↔
      ∃ mark ∈ settled, mark.node = node ∧ mark.route = route := by
  have traced {place : Nat} {mark : Mark} (here : settled[place]? = some mark) :
      Route.mk ((trace search.settled place).reverse.map (·.node))
        ((trace search.settled place).reverse.filterMap (·.link)) = mark.route := by
    obtain ⟨path, links⟩ := tree.trace_eq_route place here
    rw [charted, path, links]
  have placed {place : Nat} : search.place? node = some place →
      ∃ mark, settled[place]? = some mark ∧ mark.node = node := by
    intro found
    rw [place?, charted, List.findIdx?_eq_some_iff_getElem] at found
    obtain ⟨bound, atNode, _⟩ := found
    rw [List.length_map] at bound
    exact ⟨settled[place], List.getElem?_eq_getElem bound, by simpa [Mark.node] using atNode⟩
  constructor
  · intro found
    obtain ⟨place, atPlace, rfl⟩ := Option.map_eq_some_iff.1 found
    obtain ⟨mark, here, atNode⟩ := placed atPlace
    exact ⟨mark, List.mem_of_getElem? here, atNode, (traced here).symm⟩
  · rintro ⟨mark, member, atNode, rfl⟩
    cases atPlace : search.place? node with
    | none =>
        rw [place?, charted, List.findIdx?_eq_none_iff] at atPlace
        have differs := atPlace mark.step (List.mem_map.2 ⟨mark, member, rfl⟩)
        rw [show mark.step.node = node from atNode] at differs
        simp at differs
    | some place =>
        obtain ⟨other, here, otherNode⟩ := placed atPlace
        have same := tree.mark_unique member (List.mem_of_getElem? here)
          (atNode.trans otherNode.symm)
        rw [route?, atPlace, Option.map_some, traced here, same]

end Search

namespace Graph

variable {graph : Graph} {source target : String} {goal : Option String} {route : Route}

theorem explore_has_settled_iff (declared : graph.declares source = true)
    (wanted : goal = none ∨ goal = some target) :
    (graph.explore source goal).hasSettled target = true ↔
      ∃ route places, graph.Leads source target route places := by
  obtain ⟨settled, charted, finished⟩ := graph.explore_finished goal declared
  rw [Chart.has_settled_iff charted]
  constructor
  · intro reached
    obtain ⟨mark, member, rfl⟩ := List.mem_map.1 reached
    exact ⟨mark.route, mark.places, (finished.tree.leads mark member).toLeads⟩
  · rintro ⟨route, places, leads⟩
    rcases finished.complete target route places leads with reached | ⟨node, reached, atGoal⟩
    · exact reached
    · rcases wanted with rfl | rfl
      · simp at atGoal
      · rwa [Option.some.inj atGoal]

/-- A search for a node, or for all nodes, gives the route of the first walk to the node. -/
theorem explore_route_eq_some_iff (declared : graph.declares source = true)
    (wanted : goal = none ∨ goal = some target) :
    (graph.explore source goal).route? target = some route ↔
      ∃ places, graph.LeadsFirst source target route places := by
  obtain ⟨settled, charted, finished⟩ := graph.explore_finished goal declared
  rw [Search.route_eq_some_iff finished.tree charted]
  constructor
  · rintro ⟨mark, member, rfl, rfl⟩
    exact ⟨mark.places, finished.tree.leads mark member⟩
  · rintro ⟨places, leads⟩
    have reached := (explore_has_settled_iff declared wanted).2 ⟨route, places, leads.toLeads⟩
    obtain ⟨mark, member, rfl⟩ := List.mem_map.1 ((Chart.has_settled_iff charted).1 reached)
    exact ⟨mark, member, rfl, ((finished.tree.leads mark member).unique leads).1⟩

theorem find_path_eq_some_iff :
    graph.findPath source target = some route ↔
      ∃ places, graph.LeadsFirst source target route places := by
  rw [findPath]
  split
  · rename_i same
    subst same
    have stay := graph.leads_first_stay source
    constructor
    · intro found
      obtain rfl := Option.some.inj found
      exact ⟨[], stay⟩
    · rintro ⟨places, leads⟩
      rw [(stay.unique leads).1]
  · rename_i different
    by_cases declared : graph.declares source = true
    · exact explore_route_eq_some_iff declared (Or.inr rfl)
    · rw [explore, if_neg declared]
      constructor
      · intro found
        simp [Search.route?, Search.place?] at found
      · rintro ⟨places, leads⟩
        exact absurd (leads.source_declared different) declared

theorem find_path_is_some_iff :
    (graph.findPath source target).isSome = true ↔
      ∃ route places, graph.Leads source target route places := by
  rw [Option.isSome_iff_exists]
  constructor
  · rintro ⟨route, found⟩
    obtain ⟨places, leads⟩ := find_path_eq_some_iff.1 found
    exact ⟨route, places, leads.toLeads⟩
  · rintro ⟨route, places, leads⟩
    by_cases same : source = target
    · exact ⟨Route.stay source, by rw [findPath, if_pos same]⟩
    · have declared := leads.source_declared same
      obtain ⟨settled, charted, finished⟩ := graph.explore_finished (some target) declared
      have reached := (explore_has_settled_iff declared (Or.inr rfl)).2 ⟨route, places, leads⟩
      obtain ⟨mark, member, atTarget⟩ := List.mem_map.1 ((Chart.has_settled_iff charted).1 reached)
      refine ⟨mark.route, ?_⟩
      rw [findPath, if_neg same]
      exact (Search.route_eq_some_iff finished.tree charted).2 ⟨mark, member, atTarget, rfl⟩

theorem find_path_nodup (found : graph.findPath source target = some route) :
    route.path.Nodup := by
  by_cases same : source = target
  · rw [findPath, if_pos same] at found
    obtain rfl := Option.some.inj found
    simp [Route.stay]
  · obtain ⟨places, leads⟩ := find_path_eq_some_iff.1 found
    have declared := leads.source_declared same
    obtain ⟨settled, charted, finished⟩ := graph.explore_finished (some target) declared
    rw [findPath, if_neg same, Search.route_eq_some_iff finished.tree charted] at found
    obtain ⟨mark, member, _, rfl⟩ := found
    exact finished.tree.simple mark member

/-- What makes a route between two nodes a shortest one among declared nodes. -/
structure IsShortest (graph : Graph) (source target : String) (route : Route) : Prop where
  starts : route.path.head? = some source
  ends : route.EndsAt target
  counts : route.path.length = route.links.length + 1
  simple : route.path.Nodup
  joined : ∀ index first second id, route.path[index]? = some first →
    route.path[index + 1]? = some second → route.links[index]? = some id →
    ∃ link ∈ graph.links, link.failed = false ∧ link.id = id ∧ link.Joins first second
  least : ∀ other places, graph.Connects source target other places → route.hops ≤ other.hops

/-- Between declared nodes a route is found if and only if a walk among declared nodes joins them,
and what is found is a shortest route. -/
theorem find_path_shortest (graph : Graph) (source : String) {target : String}
    (targetDeclared : graph.declares target = true) :
    ((graph.findPath source target).isSome = true ↔
        ∃ route places, graph.Connects source target route places) ∧
      ∀ route, graph.findPath source target = some route →
        graph.IsShortest source target route := by
  constructor
  · simp only [find_path_is_some_iff, leads_iff_connects targetDeclared]
  · intro route found
    obtain ⟨places, leads⟩ := find_path_eq_some_iff.1 found
    have linksLength := leads.walk.links_length
    constructor
    · exact leads.walk.path_head
    · exact leads.ends
    · rw [linksLength]
      exact leads.walk.path_length
    · exact find_path_nodup found
    · intro index first second id atFirst atSecond atLink
      have bound : index < places.length := by
        rw [← linksLength]
        exact (List.getElem?_eq_some_iff.1 atLink).1
      obtain ⟨link, first', second', foundLink, live, joins, sameId, sameFirst, sameSecond⟩ :=
        leads.walk.joins_along index (List.getElem?_eq_getElem bound)
      obtain rfl := Option.some.inj (atFirst.symm.trans sameFirst)
      obtain rfl := Option.some.inj (atSecond.symm.trans sameSecond)
      exact ⟨link, List.mem_of_getElem? foundLink, live,
        Option.some.inj (sameId.symm.trans atLink), joins⟩
    · intro other otherPlaces connects
      have order := leads.first other otherPlaces ((leads_iff_connects targetDeclared).2 connects)
      rw [Route.hops, Route.hops, linksLength, connects.walk.links_length]
      exact order.length_le

/-- A topology with a repeated node, a loop, a failed link, two links of one id, and a shortcut over
a node that is not declared. -/
def detour : Graph :=
  { nodes := [Node.plain "a" .router "A", Node.plain "b" .server "B", Node.plain "c" .switch "C",
      Node.plain "c" .switch "C again"]
    links := [Link.plain "in" "a" "ghost", Link.plain "out" "ghost" "b", Link.plain "loop" "a" "a",
      { Link.plain "cut" "a" "c" with failed := true }, Link.plain "twin" "a" "c",
      Link.plain "twin" "c" "a", Link.plain "last" "b" "c"]
    metadata := none }

theorem find_path_detour :
    detour.findPath "a" "b" = some ⟨["a", "c", "b"], ["twin", "last"]⟩ := by
  decide +kernel

theorem find_path_shortest_detour :
    detour.declares "b" = true ∧ (∃ route places, detour.Connects "a" "b" route places) ∧
      detour.IsShortest "a" "b" ⟨["a", "c", "b"], ["twin", "last"]⟩ := by
  have declared : detour.declares "b" = true := rfl
  obtain ⟨exactly, shortest⟩ := find_path_shortest detour "a" declared
  exact ⟨declared, exactly.1 (by rw [find_path_detour]; rfl), shortest _ find_path_detour⟩

end Graph

/-- The lexicographically first of the shortest walks of a kind, by the places of their links. -/
structure FirstOfShortest (walks : Route → List Nat → Prop) (route : Route) (places : List Nat) :
    Prop where
  member : walks route places
  shortest : ∀ other otherPlaces, walks other otherPlaces → places.length ≤ otherPlaces.length
  first : ∀ other otherPlaces, walks other otherPlaces → otherPlaces.length = places.length →
    places = otherPlaces ∨ List.Lex (· < ·) places otherPlaces

namespace Graph

variable {graph : Graph} {source target : String} {route : Route}

theorem leads_first_iff_first_of_shortest (targetDeclared : graph.declares target = true)
    {places : List Nat} :
    graph.LeadsFirst source target route places ↔
      FirstOfShortest (graph.Connects source target) route places := by
  constructor
  · intro leads
    have order {other : Route} {otherPlaces : List Nat}
        (connects : graph.Connects source target other otherPlaces) :
        PlacesLE places otherPlaces :=
      leads.first other otherPlaces ((leads_iff_connects targetDeclared).2 connects)
    constructor
    · exact (leads_iff_connects targetDeclared).1 leads.toLeads
    · exact fun _ _ connects => (order connects).length_le
    · exact fun _ _ connects sameLength => (order connects).lex_of_length_eq sameLength.symm
  · intro first
    refine ⟨(leads_iff_connects targetDeclared).2 first.member, fun other otherPlaces leads => ?_⟩
    have connects := (leads_iff_connects targetDeclared).1 leads
    rcases Nat.eq_or_lt_of_le (first.shortest other otherPlaces connects) with same | less
    · exact (first.first other otherPlaces connects same.symm).imp_right
        (List.Shortlex.of_lex same)
    · exact PlacesLE.of_length_lt less

/-- Of all shortest walks among declared nodes, the one that is found comes first by the places of
its links: where two of them part, the link that is declared earlier wins. -/
theorem find_path_tie_break (graph : Graph) {source target : String} (route : Route)
    (targetDeclared : graph.declares target = true) :
    graph.findPath source target = some route ↔
      ∃ places, FirstOfShortest (graph.Connects source target) route places := by
  simp only [find_path_eq_some_iff, leads_first_iff_first_of_shortest targetDeclared]

theorem find_path_tie_break_detour :
    detour.declares "b" = true ∧ ∃ places,
      FirstOfShortest (detour.Connects "a" "b") ⟨["a", "c", "b"], ["twin", "last"]⟩ places := by
  have declared : detour.declares "b" = true := rfl
  exact ⟨declared, (find_path_tie_break detour _ declared).1 find_path_detour⟩

/-- Undeclared nodes have to be left out: over one of them there may be a walk that is as short and
comes first. -/
theorem find_path_not_first_over_undeclared :
    detour.declares "a" = true ∧ detour.declares "b" = true ∧
      detour.findPath "a" "b" = some ⟨["a", "c", "b"], ["twin", "last"]⟩ ∧
      ¬ ∃ places, FirstOfShortest
        (fun route places => detour.Walk "a" route places ∧ route.EndsAt "b")
        ⟨["a", "c", "b"], ["twin", "last"]⟩ places := by
  refine ⟨rfl, rfl, find_path_detour, ?_⟩
  rintro ⟨places, ⟨walk, _⟩, _, first⟩
  have inLink : detour.links[0]? = some (Link.plain "in" "a" "ghost") := rfl
  have outLink : detour.links[1]? = some (Link.plain "out" "ghost" "b") := rfl
  have toGhost : detour.Walk "a" ⟨["a", "ghost"], ["in"]⟩ [0] :=
    Walk.extend .stay (Route.stay_ends_at.2 rfl) inLink rfl (Or.inl ⟨rfl, rfl⟩)
  have atGhost : Route.EndsAt ⟨["a", "ghost"], ["in"]⟩ "ghost" := rfl
  have shortcut : detour.Walk "a" ⟨["a", "ghost", "b"], ["in", "out"]⟩ [0, 1] :=
    Walk.extend toGhost atGhost outLink rfl (Or.inl ⟨rfl, rfl⟩)
  have length : places.length = 2 := walk.links_length.symm
  obtain ⟨place, other, rfl⟩ := List.length_eq_two.1 length
  have startsFirst : place = 0 := by
    rcases first _ _ ⟨shortcut, rfl⟩ rfl with same | before
    · simp_all
    · cases before with
      | rel less => omega
      | cons => rfl
  obtain ⟨link, _, _, found, _, _, id, _⟩ := walk.joins_along 0 rfl
  subst startsFirst
  obtain rfl := Option.some.inj found
  exact absurd (Option.some.inj id) (by decide)

end Graph

end NetworkTwin
