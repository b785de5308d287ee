import NetworkTwin.Proofs.Faults.LastWrite
import NetworkTwin.Proofs.Routing.Latency

/-!
Links that are taken down. Such a fault fails the first link with the id and no other. If it is the
only one, nothing is carried under the id any more: no link with it is live, and no route lists it.
But a valid topology may have several links with one id, and those after the first stay up unless
they had failed before or one of their ends goes down.
-/

namespace NetworkTwin

namespace Graph

/-- Whether nothing is carried under an id: no link with it is live, and no route lists it. -/
structure CarriesNothing (graph : Graph) (id : String) : Prop where
  dead : ∀ link ∈ graph.links, link.failed = false → link.id ≠ id
  unlisted : ∀ source target route, graph.findPath source target = some route → id ∉ route.links

variable {graph : Graph} {faults : List Fault} {fault : Fault}

theorem live_of_listed {source target id : String} {route : Route}
    (found : graph.findPath source target = some route) (listed : id ∈ route.links) :
    ∃ link ∈ graph.links, link.failed = false ∧ link.id = id := by
  obtain ⟨places, leads⟩ := find_path_eq_some_iff.1 found
  obtain ⟨walked, goes⟩ := leads.walk.goes_over
  rw [← goes.ids] at listed
  obtain ⟨link, member, rfl⟩ := List.mem_map.1 listed
  obtain ⟨inGraph, live⟩ := goes.live link member
  exact ⟨link, inGraph, live, rfl⟩

theorem carries_nothing_iff {id : String} :
    graph.CarriesNothing id ↔ ∀ link ∈ graph.links, link.failed = false → link.id ≠ id := by
  refine ⟨CarriesNothing.dead, fun dead => ⟨dead, fun source target route found listed => ?_⟩⟩
  obtain ⟨link, member, live, same⟩ := live_of_listed found listed
  exact dead link member live same

/-- A link that is taken down leaves its id to the links after the first with the id: nothing is
carried under it if and only if each of them had failed before or ends at a node that goes down. -/
theorem carries_nothing_after_cut_iff (member : fault ∈ faults) (cut : fault.kind = .linkDown) :
    (graph.injectAll faults).CarriesNothing fault.target ↔
      ∀ (place : Nat) (link : Link), graph.links[place]? = some link → link.id = fault.target →
        (∃ earlier ∈ graph.links.take place, earlier.id = link.id) →
        link.failed = true ∨
          ∃ other ∈ faults, other.kind = .nodeDown ∧ other.target ∈ link.ends := by
  rw [carries_nothing_iff, forall_links_inject_all_iff]
  refine forall₂_congr fun place link => imp_congr_right fun _ => ?_
  have failed := (link.left_as_settle (link.isFirstIn graph.links place) faults).failed
  constructor
  · rintro dead named ⟨earlier, before, same⟩
    have down : (link.settle (link.isFirstIn graph.links place) faults).failed = true := by
      by_contra live
      exact dead (Bool.eq_false_of_not_eq_true live) named
    rcases failed.1 down with failedBefore | ⟨comesFirst, _⟩ | endDown
    · exact Or.inl failedBefore
    · exact absurd same (link.is_first_in_iff.1 comesFirst earlier before)
    · exact Or.inr endDown
  · intro spared live named
    have down : (link.settle (link.isFirstIn graph.links place) faults).failed = true := by
      rw [failed]
      by_cases later : ∃ earlier ∈ graph.links.take place, earlier.id = link.id
      · exact (spared named later).imp_right Or.inr
      · have comesFirst : link.isFirstIn graph.links place = true :=
          link.is_first_in_iff.2 fun earlier before same => later ⟨earlier, before, same⟩
        exact Or.inr (Or.inl ⟨comesFirst, fault, member, cut, named.symm⟩)
    rw [down] at live
    cases live

theorem comes_first_of_nodup (distinct : (graph.links.map (·.id)).Nodup) {place : Nat}
    {link earlier : Link} (found : graph.links[place]? = some link)
    (before : earlier ∈ graph.links.take place) : earlier.id ≠ link.id := by
  have onwards : (graph.links.drop place)[0]? = some link := by
    rw [List.getElem?_drop, Nat.add_zero, found]
  rw [← List.take_append_drop place graph.links, List.map_append, List.nodup_append] at distinct
  exact distinct.2.2 _ (List.mem_map_of_mem before) _
    (List.mem_map_of_mem (List.mem_of_getElem? onwards))

/-- A link that is taken down carries nothing under its id any more where no other link has the id.
Where others have it, this is so if and only if each of them but the first had failed before or ends
at a node that goes down. -/
theorem cut_links_carry_nothing_but_for_namesakes (member : fault ∈ faults)
    (cut : fault.kind = .linkDown) :
    ((graph.links.map (·.id)).Nodup → (graph.injectAll faults).CarriesNothing fault.target) ∧
      ((graph.injectAll faults).CarriesNothing fault.target ↔
        ∀ (place : Nat) (link : Link), graph.links[place]? = some link → link.id = fault.target →
          (∃ earlier ∈ graph.links.take place, earlier.id = link.id) →
          link.failed = true ∨
            ∃ other ∈ faults, other.kind = .nodeDown ∧ other.target ∈ link.ends) := by
  have spared := @carries_nothing_after_cut_iff graph faults fault member cut
  refine ⟨fun distinct => spared.2 ?_, spared⟩
  rintro place link found _ ⟨earlier, before, same⟩
  exact absurd same (comes_first_of_nodup distinct found before)

theorem cut_links_carry_nothing_but_for_namesakes_office :
    let cut := Fault.plain "cut" .linkDown "l-core"
    let down := Fault.plain "down" .nodeDown "web1"
    cut ∈ [down, cut] ∧ cut.kind = .linkDown ∧
      (Sample.office.injectAll [down, cut]).CarriesNothing "l-core" := by
  intro cut down
  have member : cut ∈ [down, cut] := List.mem_cons_of_mem down List.mem_cons_self
  refine ⟨member, rfl, ?_⟩
  exact (cut_links_carry_nothing_but_for_namesakes member rfl).1 (by decide +kernel)

/-- The first of two links with one id is taken down in a valid topology, and the second still
carries what goes over it under the id. -/
theorem namesake_of_cut_link_carries :
    namesakes.validate.valid = true ∧
      (namesakes.injectAll [.plain "cut" .linkDown "x"]).findPath "b" "c" =
        some ⟨["b", "c"], ["x"]⟩ ∧
      ¬ (namesakes.injectAll [.plain "cut" .linkDown "x"]).CarriesNothing "x" := by
  have route : (namesakes.injectAll [.plain "cut" .linkDown "x"]).findPath "b" "c" =
      some ⟨["b", "c"], ["x"]⟩ := by
    decide +kernel
  refine ⟨by decide +kernel, route, fun nothing => ?_⟩
  exact nothing.unlisted "b" "c" _ route List.mem_cons_self

end Graph

end NetworkTwin
