import NetworkTwin.Proofs.Faults.Strike
import NetworkTwin.Proofs.Routing.Shortest
import NetworkTwin.Proofs.Topology.Validity

/-!
Routes on a topology whose links end at declared nodes. A valid topology is such a one, and no fault
changes that. Every walk there leaves declared nodes only, so that the route that is found has the
fewest hops of all walks, and an id that is not declared has no route to any other or from it.
-/

namespace NetworkTwin

namespace Link.Joins

variable {link : Link} {first second : String}

theorem first_mem (joins : link.Joins first second) : first ∈ link.ends := by
  rcases joins with ⟨rfl, _⟩ | ⟨_, rfl⟩ <;> simp [ends]

theorem second_mem (joins : link.Joins first second) : second ∈ link.ends := by
  rcases joins with ⟨_, rfl⟩ | ⟨rfl, _⟩ <;> simp [ends]

end Link.Joins

namespace Graph

@[simp] theorem declares_inject_all (graph : Graph) (faults : List Fault) (id : String) :
    (graph.injectAll faults).declares id = graph.declares id := by
  rw [declares, declares, nodeIds, nodeIds, nodes_inject_all]

theorem Closed.inject_all {graph : Graph} (closed : graph.Closed) (faults : List Fault) :
    (graph.injectAll faults).Closed := by
  unfold Closed
  simp only [declares_inject_all]
  apply forall_mem_inject_all
  · intro fault _ link declared
    rwa [Link.ends_suffer]
  · exact closed

/-- A walk from one node to another, and none from the one to the other has fewer hops. -/
structure FewestHops (graph : Graph) (source target : String) (route : Route) : Prop where
  walked : ∃ places, graph.Walk source route places
  ends : route.EndsAt target
  fewest : ∀ other places, graph.Walk source other places → other.EndsAt target →
    route.hops ≤ other.hops

variable {graph : Graph} {source target : String} {route : Route} {places : List Nat}

theorem Walk.path_length_eq_hops (walk : graph.Walk source route places) :
    route.path.length = route.hops + 1 := by
  rw [Route.hops, walk.links_length, walk.path_length]

namespace Closed

theorem departs (closed : graph.Closed) (walk : graph.Walk source route places) :
    ∀ node ∈ route.path.dropLast, graph.declares node = true := by
  induction walk with
  | stay => simp [Route.stay]
  | extend walk ends found _ joins induction =>
      -- What is left now is what was left before, and one end of the last link.
      rw [Route.extend, List.dropLast_concat, ends.path_eq]
      intro left member
      rcases List.mem_append.1 member with before | last
      · exact induction left before
      · obtain rfl := List.mem_singleton.1 last
        exact closed _ (List.mem_of_getElem? found) left joins.first_mem

theorem leads_iff (closed : graph.Closed) :
    graph.Leads source target route places ↔
      graph.Walk source route places ∧ route.EndsAt target := by
  constructor
  · intro leads
    exact ⟨leads.walk, leads.ends⟩
  · rintro ⟨walk, ends⟩
    exact ⟨walk, ends, closed.departs walk⟩

theorem find_path_eq_none_iff (closed : graph.Closed) :
    graph.findPath source target = none ↔
      ∀ route places, graph.Walk source route places → ¬ route.EndsAt target := by
  rw [← Option.not_isSome_iff_eq_none, find_path_is_some_iff]
  simp only [closed.leads_iff, not_exists, not_and]

theorem target_declared (closed : graph.Closed)
    (leads : graph.Leads source target route places) (different : source ≠ target) :
    graph.declares target = true := by
  obtain ⟨walk, ends, _⟩ := leads
  cases walk with
  | stay => exact absurd (Route.stay_ends_at.1 ends) different
  | extend _ _ found _ joins =>
      obtain rfl := Route.extend_ends_at.1 ends
      exact closed _ (List.mem_of_getElem? found) _ joins.second_mem

/-- The route that is found has the fewest hops of all walks. -/
theorem fewest_hops (closed : graph.Closed) (found : graph.findPath source target = some route) :
    graph.FewestHops source target route := by
  obtain ⟨places, leads⟩ := find_path_eq_some_iff.1 found
  refine ⟨⟨places, leads.walk⟩, leads.ends, ?_⟩
  intro other otherPlaces walk ends
  exact leads.hops_le (closed.leads_iff.2 ⟨walk, ends⟩)

theorem find_path_eq_none (closed : graph.Closed) (different : source ≠ target)
    (undeclared : graph.declares source = false ∨ graph.declares target = false) :
    graph.findPath source target = none := by
  rw [← Option.not_isSome_iff_eq_none, find_path_is_some_iff]
  rintro ⟨route, places, leads⟩
  have sourceDeclared := leads.source_declared different
  have targetDeclared := closed.target_declared leads different
  rcases undeclared with source | target
  · rw [source] at sourceDeclared
    cases sourceDeclared
  · rw [target] at targetDeclared
    cases targetDeclared

end Closed

end Graph

end NetworkTwin
