import NetworkTwin.Proofs.Routing.Hops

/-!
The tree that a search leaves behind. Its loop ends within the limit of the search. Of what is settled
then, the source is the first step, and every other one was found from an earlier step over a live
link, no nearer to the source than any before it. So the way back from a place over the parents stays
among what is settled and ends at the source.
-/

namespace NetworkTwin

namespace Search

/-- The way back from a settled place over the parents. Where there is no step at a place, there is
no way back from it. -/
inductive WayBack (settled : List Step) : Nat → List Step → Prop
  | source {place : Nat} {step : Step} (here : settled[place]? = some step)
      (root : step.parent = none) : WayBack settled place [step]
  | parent {place parent : Nat} {step : Step} {steps : List Step}
      (here : settled[place]? = some step) (found : step.parent = some parent)
      (onward : WayBack settled parent steps) : WayBack settled place (step :: steps)

theorem WayBack.exists_settled {settled : List Step} {place : Nat} {steps : List Step}
    (back : WayBack settled place steps) : ∃ step, settled[place]? = some step := by
  cases back with
  | source here => exact ⟨_, here⟩
  | parent here => exact ⟨_, here⟩

theorem WayBack.unique {settled : List Step} {place : Nat} {steps other : List Step}
    (back : WayBack settled place steps) (back' : WayBack settled place other) : steps = other := by
  induction back generalizing other with
  | source here root =>
      cases back' with
      | source here' =>
          obtain rfl := Option.some.inj (here.symm.trans here')
          rfl
      | parent here' found =>
          obtain rfl := Option.some.inj (here.symm.trans here')
          rw [root] at found
          cases found
  | parent here found _ induction =>
      cases back' with
      | source here' root =>
          obtain rfl := Option.some.inj (here.symm.trans here')
          rw [root] at found
          cases found
      | parent here' found' onward =>
          obtain rfl := Option.some.inj (here.symm.trans here')
          obtain rfl := Option.some.inj (found.symm.trans found')
          rw [induction onward]

end Search

namespace SearchTree

variable {graph : Graph} {source : String} {settled : List Mark}

theorem first_eq (tree : SearchTree graph source settled) {mark : Mark}
    (first : settled[0]? = some mark) : mark = Mark.root source := by
  cases tree.grows 0 mark first with
  | root => rfl
  | extend found => simp at found

theorem found_from (tree : SearchTree graph source settled) {place : Nat} {mark : Mark}
    (later : 0 < place) (here : settled[place]? = some mark) :
    ∃ parent before link, mark.step.parent = some parent ∧ parent < place ∧
      settled[parent]? = some before ∧ mark.step.link = some link.id ∧ link ∈ graph.liveLinks ∧
      link.Joins before.node mark.node := by
  have grows := tree.grows place mark here
  have leads := (tree.leads mark (List.mem_of_getElem? here)).toLeads
  cases grows with
  | root =>
      -- The source would be settled twice, here and as the first of all.
      have bound := (List.getElem?_eq_some_iff.1 here).1
      have start := List.getElem?_eq_getElem (Nat.lt_trans later bound)
      have twice := List.pairwise_iff_getElem.1 (List.pairwise_map.1 tree.distinct) 0 place
        (Nat.lt_trans later bound) bound later
      rw [tree.first_eq start, (List.getElem?_eq_some_iff.1 here).2] at twice
      exact absurd rfl twice
  | @extend before parent linkPlace hop found =>
      have earlier : parent < place := by
        have bound := (List.getElem?_eq_some_iff.1 found).1
        rw [List.length_take] at bound
        omega
      rw [List.getElem?_take_of_lt earlier] at found
      have beforeLeads := (tree.leads before (List.mem_of_getElem? found)).toLeads
      obtain ⟨shorter, node, next, link, walk, ends, atPlace, live, joins, route⟩ :=
        leads.walk.of_append
      obtain rfl := walk.route_unique beforeLeads.walk
      obtain rfl := Route.ends_at_unique beforeLeads.ends ends
      rw [Mark.route_extend, Route.extend, Route.extend, Route.mk.injEq] at route
      have sameNode : hop.node = next := by simpa using route.1
      have sameLink : hop.link = link.id := by simpa using route.2
      refine ⟨parent, before, link, rfl, earlier, found, congrArg some sameLink,
        Graph.mem_live_links.2 ⟨List.mem_of_getElem? atPlace, live⟩, ?_⟩
      rw [Mark.node_extend, sameNode]
      exact joins

theorem way_back (tree : SearchTree graph source settled) (place : Nat) {mark : Mark}
    (here : settled[place]? = some mark) :
    Search.WayBack (settled.map (·.step)) place
      (Search.trace (settled.map (·.step)) place) := by
  induction place using Nat.strongRecOn generalizing mark with
  | ind place induction =>
      have step : (settled.map (·.step))[place]? = some mark.step := by simp [here]
      unfold Search.trace
      rw [step]
      rcases Nat.eq_zero_or_pos place with rfl | later
      · obtain rfl := tree.first_eq here
        exact .source step rfl
      · obtain ⟨parent, before, _, found, earlier, atParent, _⟩ := tree.found_from later here
        simp only [found, if_pos earlier]
        exact .parent step found (induction parent earlier atParent)

theorem length_way_back (tree : SearchTree graph source settled) {place : Nat} {mark : Mark}
    (here : settled[place]? = some mark) {steps : List Step}
    (back : Search.WayBack (settled.map (·.step)) place steps) :
    steps.length = mark.places.length + 1 := by
  obtain rfl := back.unique (tree.way_back place here)
  have path := congrArg List.length (tree.trace_eq_route place here).1
  rw [List.length_map, List.length_reverse] at path
  rw [path]
  exact (tree.leads mark (List.mem_of_getElem? here)).walk.path_length

end SearchTree

namespace Exploration

/-- What a search from a node leaves behind is a tree: the source comes first, if it is declared;
every other step was found from an earlier one over a live link; the index gives the place of each
node, and no node has two; no step is nearer to the source than an earlier one. -/
structure IsTree (graph : Graph) (source : String) (exploration : Exploration) : Prop where
  root : exploration.settled.head? =
    if graph.declares source then some ⟨source, none, none⟩ else none
  found : ∀ place step, 0 < place → exploration.settled[place]? = some step →
    ∃ parent before link, step.parent = some parent ∧ parent < place ∧
      exploration.settled[parent]? = some before ∧ step.link = some link.id ∧
      link ∈ graph.liveLinks ∧ link.Joins before.node step.node
  index : ∀ node place, exploration.index.get? node = some place ↔
    ∃ step, exploration.settled[place]? = some step ∧ step.node = node
  distinct : (exploration.settled.map (·.node)).Nodup
  depths : ∀ earlier later short long, earlier ≤ later →
    Search.WayBack exploration.settled earlier short →
    Search.WayBack exploration.settled later long → short.length ≤ long.length

/-- The route to a node: that of the way back from its place, if the index has one. -/
inductive Leads (exploration : Exploration) (node : String) : Option Route → Prop
  | nowhere (unknown : exploration.index.get? node = none) : Leads exploration node none
  | route {place : Nat} {steps : List Step} (known : exploration.index.get? node = some place)
      (back : Search.WayBack exploration.settled place steps) :
      Leads exploration node
        (some ⟨steps.reverse.map (·.node), steps.reverse.filterMap (·.link)⟩)

variable {graph : Graph} {source : String} {goal : Option String} {exploration : Exploration}
  {ending : Chart}

theorem is_tree_of_undeclared (undeclared : graph.declares source = false) :
    (waiting []).IsTree graph source where
  root := by simp [waiting, undeclared]
  found place step _ here := by simp [waiting] at here
  index := (Indexed.waiting []).index
  distinct := List.nodup_nil
  depths earlier later short long _ back _ := by
    obtain ⟨step, here⟩ := back.exists_settled
    simp [waiting] at here

theorem is_tree_of_ended (declared : graph.declares source = true) (indexed : exploration.Indexed)
    (charted : ending.search = exploration.search) (ended : ending.Ended graph source goal) :
    exploration.IsTree graph source := by
  have steps : exploration.settled = ending.settled.map (·.step) :=
    (congrArg Search.settled charted).symm
  have tree := ended.tree
  constructor
  · rw [if_pos declared, steps]
    obtain ⟨first, rest, marks⟩ := List.exists_cons_of_ne_nil ended.settled_ne_nil
    have atStart : ending.settled[0]? = some first := by rw [marks]; rfl
    rw [marks, List.map_cons, List.head?_cons, tree.first_eq atStart]
    rfl
  · intro place step later here
    rw [steps, List.getElem?_map] at here
    obtain ⟨mark, atPlace, rfl⟩ := Option.map_eq_some_iff.1 here
    obtain ⟨parent, before, link, found, earlier, atParent, crossed, live, joins⟩ :=
      tree.found_from later atPlace
    refine ⟨parent, before.step, link, found, earlier, ?_, crossed, live, joins⟩
    rw [steps, List.getElem?_map, atParent, Option.map_some]
  · exact indexed.index
  · exact indexed.distinct
  · intro earlier later short long order back back'
    rw [steps] at back back'
    obtain ⟨first, atFirst⟩ := back.exists_settled
    obtain ⟨second, atSecond⟩ := back'.exists_settled
    rw [List.getElem?_map] at atFirst atSecond
    obtain ⟨mark, atEarlier, rfl⟩ := Option.map_eq_some_iff.1 atFirst
    obtain ⟨other, atLater, rfl⟩ := Option.map_eq_some_iff.1 atSecond
    rw [tree.length_way_back atEarlier back, tree.length_way_back atLater back']
    rcases Nat.eq_or_lt_of_le order with rfl | before
    · obtain rfl := Option.some.inj (atEarlier.symm.trans atLater)
      exact Nat.le_refl _
    · obtain ⟨bound, rfl⟩ := List.getElem?_eq_some_iff.1 atEarlier
      obtain ⟨bound', rfl⟩ := List.getElem?_eq_some_iff.1 atLater
      have places := List.pairwise_iff_getElem.1 ended.ordered earlier later bound bound' before
      exact Nat.succ_le_succ places.length_le

theorem leads_of_ended (indexed : exploration.Indexed)
    (charted : ending.search = exploration.search) (ended : ending.Ended graph source goal)
    (node : String) : exploration.Leads node (exploration.search.route? node) := by
  have steps : exploration.settled = ending.settled.map (·.step) :=
    (congrArg Search.settled charted).symm
  rw [Search.route?, indexed.place_eq]
  cases known : exploration.index.get? node with
  | none => exact .nowhere known
  | some place =>
      obtain ⟨step, here, _⟩ := (indexed.index node place).1 known
      rw [steps, List.getElem?_map] at here
      obtain ⟨mark, atPlace, _⟩ := Option.map_eq_some_iff.1 here
      refine .route known ?_
      have back := ended.tree.way_back place atPlace
      rw [← steps] at back
      exact back

end Exploration

namespace Graph

/-- The search from a node without a limit on its turns: how many steps it takes off the queue, and
what it leaves behind. -/
inductive Explores (graph : Graph) (source : String) (goal : Option String) :
    Nat → Exploration → Prop
  | nowhere (undeclared : graph.declares source = false) :
      Explores graph source goal 0 (.waiting [])
  | loop {dequeued : Nat} {last : Exploration} (declared : graph.declares source = true)
      (loop : Exploration.Loop graph goal dequeued (.waiting [⟨source, none, none⟩]) last) :
      Explores graph source goal dequeued last

theorem Explores.unique {graph : Graph} {source : String} {goal : Option String}
    {dequeued dequeued' : Nat} {last other : Exploration}
    (explores : graph.Explores source goal dequeued last)
    (explores' : graph.Explores source goal dequeued' other) :
    dequeued = dequeued' ∧ last = other := by
  cases explores with
  | nowhere undeclared =>
      cases explores' with
      | nowhere => exact ⟨rfl, rfl⟩
      | loop declared =>
          rw [undeclared] at declared
          cases declared
  | loop declared loop =>
      cases explores' with
      | nowhere undeclared =>
          rw [undeclared] at declared
          cases declared
      | loop _ loop' => exact loop.unique loop'

/-- A search ends, in only one way and after no more turns than there are ends of live links and one
for the source. What it leaves behind is what the search with a limit comes to, and is a tree, and
from each node that it has settled there is a way back to the source, which gives the route. -/
theorem explore_ends_with_tree (graph : Graph) (source : String) (goal : Option String) :
    ∃ dequeued last, graph.Explores source goal dequeued last ∧
      (∀ dequeued' other, graph.Explores source goal dequeued' other →
        dequeued' = dequeued ∧ other = last) ∧
      dequeued ≤ 1 + 2 * graph.liveLinks.length ∧ graph.explore source goal = last.search ∧
      last.IsTree graph source ∧
      ∀ node, last.Leads node ((graph.explore source goal).route? node) := by
  cases declared : graph.declares source with
  | false =>
      have explores : graph.Explores source goal 0 (.waiting []) := .nowhere declared
      have empty : graph.explore source goal = (Exploration.waiting []).search := by
        rw [explore, declared]
        rfl
      refine ⟨0, _, explores, fun _ _ other => other.unique explores, Nat.zero_le _, empty,
        Exploration.is_tree_of_undeclared declared, fun node => ?_⟩
      rw [empty]
      exact .nowhere rfl
  | true =>
      obtain ⟨dequeued, last, loop, few, indexed, explored, ending, charted, ended⟩ :=
        graph.explore_loop goal declared
      have explores : graph.Explores source goal dequeued last := .loop declared loop
      refine ⟨dequeued, last, explores, fun _ _ other => other.unique explores, few, explored,
        Exploration.is_tree_of_ended declared indexed charted ended, fun node => ?_⟩
      rw [explored]
      exact Exploration.leads_of_ended indexed charted ended node

end Graph

end NetworkTwin
