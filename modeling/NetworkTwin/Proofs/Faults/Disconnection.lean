import NetworkTwin.Proofs.Routing.Closed
import NetworkTwin.Proofs.Routing.Hops

/-!
Faults and connectivity. A fault moves no end of a link and mends no link, so whatever is live after
more faults was live after fewer, and the walks over it were there before. A node that was once down
has no live link any more, whichever faults came before or after: nothing leaves it, reaches it or
passes it.
-/

namespace NetworkTwin

namespace Link

variable {link : Link}

theorem joins_congr {other : Link} (same : other.ends = link.ends) {first second : String} :
    other.Joins first second ↔ link.Joins first second := by
  obtain ⟨sameSource, sameTarget⟩ : other.source = link.source ∧ other.target = link.target := by
    simpa [ends] using same
  rw [Joins, Joins, sameSource, sameTarget]

theorem failed_of_suffer {fault : Fault} (live : (link.suffer fault).failed = false) :
    link.failed = false := by
  rcases link.suffer_cases fault with same | failed | degraded
  · rwa [same] at live
  · rw [failed] at live
    cases live
  · rwa [degraded] at live

end Link

namespace Graph

/-- Whether one topology is what wear may leave of another: the same ids are declared, and no link is
live between ends that had no live link before. -/
structure WornFrom (worn whole : Graph) : Prop where
  declares : ∀ id, worn.declares id = whole.declares id
  live : ∀ link ∈ worn.liveLinks, ∃ before ∈ whole.liveLinks, before.ends = link.ends

theorem worn_from_inject_all (graph : Graph) (faults : List Fault) :
    (graph.injectAll faults).WornFrom graph := by
  -- Carried along the faults: if a link is live, then one lay live between its ends at first.
  have lay : ∀ link ∈ (graph.injectAll faults).links, link.failed = false →
      ∃ before ∈ graph.liveLinks, before.ends = link.ends := by
    apply forall_mem_inject_all
    · intro fault _ link lay works
      rw [Link.ends_suffer]
      exact lay (Link.failed_of_suffer works)
    · intro link member works
      exact ⟨link, mem_live_links.2 ⟨member, works⟩, rfl⟩
  refine ⟨graph.declares_inject_all faults, fun link live => ?_⟩
  obtain ⟨member, works⟩ := mem_live_links.1 live
  exact lay link member works

variable {worn whole graph : Graph} {source target node : String}

theorem JoinedIn.before_wear {hops : Nat} (wear : worn.WornFrom whole)
    (joined : worn.JoinedIn source target hops) : whole.JoinedIn source target hops := by
  induction joined with
  | here declared => exact .here (wear.declares source ▸ declared)
  | @hop node next _ _ _ live joins declared induction =>
      obtain ⟨before, lay, same⟩ := wear.live _ live
      exact .hop induction lay ((Link.joins_congr same).2 joins) (wear.declares next ▸ declared)

/-- Whether declared nodes that reach each other in one topology do so in another, and with as many
hops or fewer. -/
structure NoCloser (worn whole : Graph) : Prop where
  reaches : ∀ source target : whole.DeclaredId,
    worn.Reaches source target → whole.Reaches source target
  hops : ∀ source target : whole.DeclaredId, ∀ far, worn.hops? source target = some far →
    ∃ near, whole.hops? source target = some near ∧ near ≤ far

theorem WornFrom.no_closer (wear : worn.WornFrom whole) : worn.NoCloser whole := by
  constructor
  · intro source target there
    have sourceDeclared : worn.declares source = true := (wear.declares source).trans source.2
    have targetDeclared : worn.declares target = true := (wear.declares target).trans target.2
    obtain ⟨hops, joined⟩ := (reaches_iff sourceDeclared targetDeclared).1 there
    exact (reaches_iff source.2 target.2).2 ⟨hops, joined.before_wear wear⟩
  · intro source target far counted
    have targetDeclared : worn.declares target = true := (wear.declares target).trans target.2
    have joined := ((hops_eq_some_iff targetDeclared).1 counted).1
    exact (joined.before_wear wear).hops_le

/-- Whether no link that touches a node is live. -/
def Dark (graph : Graph) (node : String) : Prop :=
  ∀ link ∈ graph.links, link.failed = false → link.touches node = false

/-- Whether a node is cut off: no live link touches it, no route leads from it to another node or
from another node to it, and none between two other nodes passes it. -/
structure CutOff (graph : Graph) (node : String) : Prop where
  dark : graph.Dark node
  departs : ∀ other, other ≠ node → graph.findPath node other = none
  arrives : ∀ other, other ≠ node → graph.findPath other node = none
  bypassed : ∀ source target route, source ≠ node → target ≠ node →
    graph.findPath source target = some route → node ∉ route.path

namespace Dark

theorem inject (graph : Graph) {fault : Fault} (down : fault.kind = .nodeDown) :
    (graph.inject fault).Dark fault.target := by
  intro link member live
  rw [links_inject, ← Fault.map_suffer_eq_strike down] at member
  obtain ⟨before, _, rfl⟩ := List.mem_map.1 member
  rw [Link.touches_suffer]
  rw [Link.suffer, down] at live
  cases touched : before.touches fault.target with
  | false => rfl
  | true => simp [touched, Link.fail] at live

theorem inject_all (dark : graph.Dark node) (faults : List Fault) :
    (graph.injectAll faults).Dark node := by
  refine forall_mem_inject_all (fun fault _ link untouched works => ?_) dark
  rw [Link.touches_suffer]
  exact untouched (Link.failed_of_suffer works)

/-- A node that was down is dark, wherever in the list the fault stands. -/
theorem of_mem (graph : Graph) {faults : List Fault} {fault : Fault} (member : fault ∈ faults)
    (down : fault.kind = .nodeDown) : (graph.injectAll faults).Dark fault.target := by
  obtain ⟨before, after, rfl⟩ := List.append_of_mem member
  rw [inject_all_append]
  exact (inject (graph.injectAll before) down).inject_all after

variable {link : Link} {first second : String} {route : Route} {places : List Nat}

theorem not_joins {place : Nat} (dark : graph.Dark node) (found : graph.links[place]? = some link)
    (live : link.failed = false) (joins : link.Joins first second) :
    first ≠ node ∧ second ≠ node := by
  have untouched := dark link (List.mem_of_getElem? found) live
  have notEnd : node ∉ link.ends := by
    rw [← Link.touches_iff, untouched]
    exact Bool.false_ne_true
  exact ⟨fun same => notEnd (same ▸ joins.first_mem), fun same => notEnd (same ▸ joins.second_mem)⟩

theorem walk_stays (dark : graph.Dark node) (walk : graph.Walk node route places) :
    route = Route.stay node := by
  induction walk with
  | stay => rfl
  | extend _ ends found live joins induction =>
      rw [induction, Route.stay_ends_at] at ends
      exact absurd ends.symm (dark.not_joins found live joins).1

/-- From elsewhere, no walk comes to a dark node. -/
theorem walk_avoids (dark : graph.Dark node) (elsewhere : source ≠ node)
    (walk : graph.Walk source route places) : node ∉ route.path := by
  induction walk with
  | stay => simpa [Route.stay] using elsewhere.symm
  | extend _ _ found live joins induction =>
      rw [Route.extend, List.mem_append, List.mem_singleton, not_or]
      exact ⟨induction, (dark.not_joins found live joins).2.symm⟩

theorem cut_off (dark : graph.Dark node) : graph.CutOff node := by
  refine ⟨dark, fun other different => ?_, fun other different => ?_, ?_⟩
  · rw [← Option.not_isSome_iff_eq_none, find_path_is_some_iff]
    rintro ⟨route, places, leads⟩
    obtain rfl := dark.walk_stays leads.walk
    exact different (Route.stay_ends_at.1 leads.ends).symm
  · rw [← Option.not_isSome_iff_eq_none, find_path_is_some_iff]
    rintro ⟨route, places, leads⟩
    exact dark.walk_avoids different leads.walk leads.ends.mem
  · intro source target route elsewhere _ found
    obtain ⟨places, leads⟩ := find_path_eq_some_iff.1 found
    exact dark.walk_avoids elsewhere leads.walk

end Dark

/-- Faults only take connectivity away: after more faults no two declared nodes are closer, and each
node that was down is cut off, wherever the fault stands among the others. -/
theorem faults_take_connectivity_away (graph : Graph) (faults extra : List Fault) :
    (graph.injectAll (faults ++ extra)).NoCloser (graph.injectAll faults) ∧
      ∀ fault ∈ faults, fault.kind = .nodeDown →
        (graph.injectAll faults).CutOff fault.target := by
  constructor
  · rw [inject_all_append]
    exact ((graph.injectAll faults).worn_from_inject_all extra).no_closer
  · intro fault member down
    exact (Dark.of_mem graph member down).cut_off

theorem faults_take_connectivity_away_detour :
    let cut := Fault.plain "cut" .linkDown "last"
    let down := Fault.plain "down" .nodeDown "c"
    let slow := Fault.plain "slow" .linkDegraded "twin"
    (detour.injectAll ([down, cut] ++ [slow])).NoCloser (detour.injectAll [down, cut]) ∧
      down ∈ [down, cut] ∧ down.kind = .nodeDown ∧ (detour.injectAll [down, cut]).CutOff "c" := by
  intro cut down slow
  obtain ⟨farther, lost⟩ := faults_take_connectivity_away detour [down, cut] [slow]
  exact ⟨farther, List.mem_cons_self, rfl, lost down List.mem_cons_self rfl⟩

end Graph

end NetworkTwin
