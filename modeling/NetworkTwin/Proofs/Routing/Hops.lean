import Mathlib.Order.Bounds.Basic
import NetworkTwin.Proofs.Routing.Tables

/-!
Hops between nodes. What a search settles depends on where it starts and on the order of the links,
so two searches from different nodes have little to do with each other. The least number of hops
between two nodes does not depend on either: it is counted on walks, and walks can be joined and
walked back. So the number of hops is a metric among the declared nodes, and reaching each other is
an equivalence.
-/

namespace NetworkTwin

namespace Graph

def hops? (graph : Graph) (source target : String) : Option Nat :=
  (graph.findPath source target).map Route.hops

/-- Whether the table of what reaches what says so of two nodes. -/
def Reaches (graph : Graph) (source target : String) : Prop :=
  (graph.reachability.get? source).bind (·.get? target) = some true

/-- Whether two nodes are joined by a walk of so many hops, over links that have not failed and
among declared nodes. -/
inductive JoinedIn (graph : Graph) (source : String) : String → Nat → Prop
  | here (declared : graph.declares source = true) : JoinedIn graph source source 0
  | hop {node next : String} {hops : Nat} {link : Link} (before : JoinedIn graph source node hops)
      (live : link ∈ graph.liveLinks) (joins : link.Joins node next)
      (declared : graph.declares next = true) : JoinedIn graph source next (hops + 1)

variable {graph : Graph} {source middle target : String} {hops : Nat}

theorem mem_live_links {link : Link} :
    link ∈ graph.liveLinks ↔ link ∈ graph.links ∧ link.failed = false := by
  simp [liveLinks]

namespace JoinedIn

theorem target_declared (joined : graph.JoinedIn source target hops) :
    graph.declares target = true := by
  cases joined with
  | here declared => exact declared
  | hop _ _ _ declared => exact declared

theorem eq_of_zero (joined : graph.JoinedIn source target 0) : source = target := by
  cases joined with
  | here => rfl

theorem trans {more : Nat} (first : graph.JoinedIn source middle hops)
    (second : graph.JoinedIn middle target more) :
    graph.JoinedIn source target (hops + more) := by
  induction second with
  | here => exact first
  | hop _ live joins declared induction => exact .hop induction live joins declared

/-- A walk back is a walk, because links join their ends in both directions. -/
theorem symm (joined : graph.JoinedIn source target hops) :
    graph.JoinedIn target source hops := by
  induction joined with
  | here declared => exact .here declared
  | @hop node next hops link before live joins declared induction =>
      have back : graph.JoinedIn next node 1 :=
        .hop (.here declared) live joins.symm before.target_declared
      rw [Nat.add_comm hops 1]
      exact back.trans induction

end JoinedIn

/-- Walks that carry their routes and walks that only count their hops are the same walks. -/
theorem joined_in_iff :
    graph.JoinedIn source target hops ↔
      ∃ route places, graph.Connects source target route places ∧ route.hops = hops := by
  constructor
  · intro joined
    induction joined with
    | here declared =>
        have only : ∀ node ∈ (Route.stay source).path, graph.declares node = true := by
          simpa [Route.stay] using declared
        exact ⟨Route.stay source, [], ⟨.stay, Route.stay_ends_at.2 rfl, only⟩, rfl⟩
    | @hop node next hops link _ live joins declared induction =>
        obtain ⟨route, places, ⟨walk, ends, all⟩, rfl⟩ := induction
        obtain ⟨member, works⟩ := mem_live_links.1 live
        obtain ⟨place, found⟩ := List.getElem?_of_mem member
        refine ⟨_, _, ⟨walk.extend ends found works joins, Route.extend_ends_at.2 rfl, ?_⟩, ?_⟩
        · intro other visited
          rcases List.mem_append.1 visited with old | new
          · exact all other old
          · rw [List.mem_singleton.1 new]
            exact declared
        · exact Route.hops_extend route next link.id
  · rintro ⟨route, places, ⟨walk, ends, all⟩, rfl⟩
    induction walk generalizing target with
    | stay =>
        obtain rfl := Route.stay_ends_at.1 ends
        exact .here (all source List.mem_cons_self)
    | @extend route places node next place link walk lastEnds found works joins induction =>
        obtain rfl := Route.extend_ends_at.1 ends
        have before := induction lastEnds fun other visited =>
          all other (List.mem_append_left _ visited)
        have declared := all next (List.mem_append_right _ List.mem_cons_self)
        rw [Route.hops_extend]
        exact .hop before (mem_live_links.2 ⟨List.mem_of_getElem? found, works⟩) joins declared

theorem JoinedIn.exists_hops (joined : graph.JoinedIn source target hops) :
    ∃ least, graph.hops? source target = some least := by
  obtain ⟨route, places, connects, _⟩ := joined_in_iff.1 joined
  have leads := (leads_iff_connects joined.target_declared).2 connects
  obtain ⟨shortest, found⟩ :=
    Option.isSome_iff_exists.1 (find_path_is_some_iff.2 ⟨route, places, leads⟩)
  exact ⟨shortest.hops, by rw [hops?, found, Option.map_some]⟩

theorem hops_eq_some_iff (targetDeclared : graph.declares target = true) :
    graph.hops? source target = some hops ↔
      IsLeast { count | graph.JoinedIn source target count } hops := by
  have least {hops : Nat} (counted : graph.hops? source target = some hops) :
      IsLeast { count | graph.JoinedIn source target count } hops := by
    obtain ⟨route, found, rfl⟩ := Option.map_eq_some_iff.1 counted
    obtain ⟨places, leads⟩ := find_path_eq_some_iff.1 found
    have connects := (leads_iff_connects targetDeclared).1 leads.toLeads
    refine ⟨joined_in_iff.2 ⟨route, places, connects, rfl⟩, fun count joined => ?_⟩
    obtain ⟨other, otherPlaces, connected, rfl⟩ := joined_in_iff.1 joined
    exact leads.hops_le ((leads_iff_connects targetDeclared).2 connected)
  constructor
  · exact least
  · intro isLeast
    obtain ⟨other, counted⟩ := isLeast.1.exists_hops
    rw [counted, (least counted).unique isLeast]

theorem JoinedIn.hops_le (joined : graph.JoinedIn source target hops) :
    ∃ least, graph.hops? source target = some least ∧ least ≤ hops := by
  obtain ⟨least, counted⟩ := joined.exists_hops
  exact ⟨least, counted, ((hops_eq_some_iff joined.target_declared).1 counted).2 joined⟩

theorem reaches_iff (sourceDeclared : graph.declares source = true)
    (targetDeclared : graph.declares target = true) :
    graph.Reaches source target ↔ ∃ hops, graph.JoinedIn source target hops := by
  rw [Reaches, reachability_of_declared sourceDeclared targetDeclared, Option.some_inj,
    find_path_is_some_iff]
  simp only [leads_iff_connects targetDeclared, joined_in_iff]
  constructor
  · rintro ⟨route, places, connects⟩
    exact ⟨route.hops, route, places, connects, rfl⟩
  · rintro ⟨_, route, places, connects, _⟩
    exact ⟨route, places, connects⟩

/-- A node that the topology declares. -/
abbrev DeclaredId (graph : Graph) : Type := { id : String // graph.declares id = true }

theorem reaches_equivalence (graph : Graph) :
    Equivalence fun source target : graph.DeclaredId => graph.Reaches source target := by
  constructor
  · intro node
    exact (reaches_iff node.2 node.2).2 ⟨0, .here node.2⟩
  · intro source target there
    obtain ⟨hops, joined⟩ := (reaches_iff source.2 target.2).1 there
    exact (reaches_iff target.2 source.2).2 ⟨hops, joined.symm⟩
  · intro source middle target first second
    obtain ⟨hops, joined⟩ := (reaches_iff source.2 middle.2).1 first
    obtain ⟨more, joinedOn⟩ := (reaches_iff middle.2 target.2).1 second
    exact (reaches_iff source.2 target.2).2 ⟨hops + more, joined.trans joinedOn⟩

end Graph

/-- The laws of a metric, for a distance that some pairs do not have. Where both parts of a detour
have one, so does the way without it. -/
structure PartialMetric {α : Type} (distance : α → α → Option Nat) : Prop where
  comm : ∀ source target, distance source target = distance target source
  eq_zero_iff : ∀ source target, distance source target = some 0 ↔ source = target
  triangle : ∀ source middle target first second, distance source middle = some first →
    distance middle target = some second →
    ∃ direct, distance source target = some direct ∧ direct ≤ first + second

namespace Graph

theorem hops_metric (graph : Graph) :
    PartialMetric fun source target : graph.DeclaredId => graph.hops? source target := by
  constructor
  · intro source target
    apply Option.ext
    intro hops
    have back : { count | graph.JoinedIn source target count } =
        { count | graph.JoinedIn target source count } :=
      Set.ext fun _ => ⟨JoinedIn.symm, JoinedIn.symm⟩
    rw [hops_eq_some_iff target.2, hops_eq_some_iff source.2, back]
  · intro source target
    constructor
    · intro counted
      exact Subtype.ext ((hops_eq_some_iff target.2).1 counted).1.eq_of_zero
    · rintro rfl
      simp [hops?, findPath, Route.stay, Route.hops]
  · intro source middle target first second toMiddle fromMiddle
    have joined := ((hops_eq_some_iff middle.2).1 toMiddle).1
    have joinedOn := ((hops_eq_some_iff target.2).1 fromMiddle).1
    exact (joined.trans joinedOn).hops_le

/-- Among the declared nodes of any topology, what the table tells is an equivalence, and the hops
of the routes are a metric. -/
theorem reachability_equivalence_hops_metric (graph : Graph) :
    (Equivalence fun source target : graph.DeclaredId => graph.Reaches source target) ∧
      PartialMetric fun source target : graph.DeclaredId => graph.hops? source target :=
  ⟨graph.reaches_equivalence, graph.hops_metric⟩

/-- What is not declared can be reached, but nothing can be reached from there. -/
example : detour.hops? "a" "ghost" = some 1 ∧ detour.hops? "ghost" "a" = none := by
  decide +kernel

end Graph

end NetworkTwin
