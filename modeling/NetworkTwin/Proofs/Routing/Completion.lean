import NetworkTwin.Proofs.Routing.Frontier
import NetworkTwin.Proofs.Routing.Loop

/-!
Searches come to their end. What a search leaves behind is a tree that holds a first walk to every
node that any walk leads to, except that it may lack some once the goal is settled.
-/

namespace NetworkTwin

/-- What a search that has come to its end has settled: a tree that a walk to any further node would
have to leave behind the goal. -/
structure Search.Finished (graph : Graph) (source : String) (goal : Option String)
    (settled : List Mark) : Prop where
  tree : SearchTree graph source settled
  complete : ∀ target route places, graph.Leads source target route places →
    target ∈ settled.map Mark.node ∨ ∃ node ∈ settled.map Mark.node, goal = some node

namespace Chart

/-- A chart at the end of a search: no mark waits, or the goal is the last that was settled. -/
inductive Ended (graph : Graph) (source : String) (goal : Option String) : Chart → Prop
  | exhausted {settled : List Mark} (sound : Sound graph source ⟨settled, []⟩) :
      Ended graph source goal ⟨settled, []⟩
  | atGoal {settled waiting : List Mark} {mark : Mark}
      (sound : Sound graph source ⟨settled, mark :: waiting⟩)
      (fresh : mark.node ∉ settled.map Mark.node) (reached : goal = some mark.node) :
      Ended graph source goal ⟨settled ++ [mark], waiting⟩

variable {graph : Graph} {source : String} {goal : Option String}

namespace Ended

variable {chart : Chart}

theorem tree (ended : chart.Ended graph source goal) : SearchTree graph source chart.settled := by
  cases ended with
  | exhausted sound => exact sound.tree
  | atGoal sound fresh => exact tree_settle sound fresh

theorem settled_ne_nil (ended : chart.Ended graph source goal) : chart.settled ≠ [] := by
  cases ended with
  | exhausted sound =>
      obtain ⟨root, member, _⟩ := sound.rooted
      rw [List.append_nil] at member
      exact List.ne_nil_of_mem member
  | atGoal => simp

theorem ordered (ended : chart.Ended graph source goal) :
    chart.settled.Pairwise fun earlier later => PlacesLE earlier.places later.places := by
  cases ended with
  | exhausted sound => exact (List.pairwise_append.1 sound.ordered).1
  | @atGoal settled waiting mark sound =>
      have split : settled ++ mark :: waiting = (settled ++ [mark]) ++ waiting := by simp
      exact (List.pairwise_append.1 (split ▸ sound.ordered)).1

theorem finished (ended : chart.Ended graph source goal) :
    Search.Finished graph source goal chart.settled where
  tree := ended.tree
  complete target route places leads := by
    cases ended with
    | exhausted sound =>
        rcases sound_frontier sound leads with ⟨mark, member, sameNode, _⟩ | ⟨_, member, _⟩
        · exact Or.inl (List.mem_map.2 ⟨mark, member, sameNode⟩)
        · cases member
    | @atGoal _ _ mark _ _ reached => exact Or.inr ⟨mark.node, by simp, reached⟩

end Ended

theorem exists_ended {exploration last : Exploration} {dequeued : Nat}
    (loop : Exploration.Loop graph goal dequeued exploration last) (indexed : exploration.Indexed)
    {chart : Chart} (charted : chart.search = exploration.search)
    (sound : chart.Sound graph source) :
    ∃ ending : Chart, ending.search = last.search ∧ ending.Ended graph source goal := by
  induction loop generalizing chart with
  | done empty =>
      obtain ⟨settled, queue⟩ := chart
      have none : queue = [] := List.map_eq_nil_iff.1 ((congrArg Search.queue charted).trans empty)
      subst none
      exact ⟨_, charted, .exhausted sound⟩
  | skip next known _ induction =>
      obtain ⟨settled, queue⟩ := chart
      obtain ⟨mark, marks, rfl, rfl, rfl⟩ :=
        List.map_eq_cons_iff.1 ((congrArg Search.queue charted).trans next)
      have steps := congrArg Search.settled charted
      have settledKnown : mark.node ∈ settled.map Mark.node :=
        (has_settled_iff steps.symm).1 ((indexed.has_settled_iff mark.node).2 known)
      refine induction (indexed.with_queue _) ?_ (sound_skip sound settledKnown)
      exact congrArg (Search.mk · _) steps
  | @stop exploration _ _ next fresh atGoal =>
      obtain ⟨settled, queue⟩ := chart
      obtain ⟨mark, marks, rfl, rfl, rfl⟩ :=
        List.map_eq_cons_iff.1 ((congrArg Search.queue charted).trans next)
      have steps : settled.map (·.step) = exploration.settled := congrArg Search.settled charted
      have unsettled : mark.node ∉ settled.map Mark.node := fun member =>
        fresh ((indexed.has_settled_iff mark.node).1 ((has_settled_iff steps.symm).2 member))
      refine ⟨_, ?_, .atGoal sound unsettled atGoal⟩
      simp [search, Exploration.search, Exploration.settle, steps]
  | @expand exploration _ _ _ _ next fresh _ _ induction =>
      obtain ⟨settled, queue⟩ := chart
      obtain ⟨mark, marks, rfl, rfl, rfl⟩ :=
        List.map_eq_cons_iff.1 ((congrArg Search.queue charted).trans next)
      have steps : settled.map (·.step) = exploration.settled := congrArg Search.settled charted
      have unsettled : mark.node ∉ settled.map Mark.node := fun member =>
        fresh ((indexed.has_settled_iff mark.node).1 ((has_settled_iff steps.symm).2 member))
      refine induction ((indexed.settle _ fresh).await _ _ _) ?_ (sound_expand sound unsettled)
      rw [search_expand, ← indexed.expand_eq graph _ fresh]
      simp only [Search.expand, search, Exploration.search, steps]

end Chart

/-- The loop from a declared node ends, in no more turns than the search has for its limit, with what
the search comes to, and that can be charted. -/
theorem Graph.explore_loop {graph : Graph} {source : String} (goal : Option String)
    (declared : graph.declares source = true) :
    ∃ dequeued last, Exploration.Loop graph goal dequeued
        (.waiting [⟨source, none, none⟩]) last ∧ dequeued ≤ graph.searchLimit ∧ last.Indexed ∧
      graph.explore source goal = last.search ∧
      ∃ ending : Chart, ending.search = last.search ∧ ending.Ended graph source goal := by
  have indexed := Exploration.Indexed.waiting [⟨source, none, none⟩]
  obtain ⟨dequeued, last, loop, few⟩ :=
    Exploration.exists_loop graph goal (.waiting [⟨source, none, none⟩])
  have limited := few.trans (Exploration.budget_start_le graph ⟨source, none, none⟩)
  refine ⟨dequeued, last, loop, limited, indexed.loop loop, ?_, ?_⟩
  · rw [explore, if_pos declared]
    exact indexed.run_eq loop limited
  · exact Chart.exists_ended loop indexed (Chart.search_start source)
      (Chart.sound_start graph source)

theorem Graph.explore_finished {graph : Graph} {source : String} (goal : Option String)
    (declared : graph.declares source = true) :
    ∃ settled, (graph.explore source goal).settled = settled.map (·.step) ∧
      Search.Finished graph source goal settled := by
  obtain ⟨_, last, _, _, _, explored, ending, charted, ended⟩ := graph.explore_loop goal declared
  refine ⟨ending.settled, ?_, ended.finished⟩
  rw [explored, ← charted]
  rfl

end NetworkTwin
