import Mathlib.Data.List.Nodup
import NetworkTwin.Topology.Routing

/-!
The loop of a search with all that it keeps: the set of visited nodes and the index of their places
beside the settled nodes and those that wait. The loop has no limit. It ends all the same, because
each turn takes an entry off the queue, and settling a node uses up the ends of live links at it
while no more entries are queued than ends are used up. It ends in only one way, which is the search
with its limit.
-/

namespace NetworkTwin

namespace Graph

/-- The ends of all links that have not failed, in order and with repetitions. -/
def liveEnds (graph : Graph) : List String := graph.liveLinks.flatMap Link.ends

/-- The number of such ends at nodes that are not known yet. -/
def openEnds (graph : Graph) (known : List String) : Nat :=
  graph.liveEnds.countP fun id => !known.contains id

theorem live_ends_length (graph : Graph) : graph.liveEnds.length = 2 * graph.liveLinks.length := by
  unfold liveEnds
  induction graph.liveLinks with
  | nil => rfl
  | cons link rest induction =>
      simp only [List.flatMap_cons, List.length_append, induction, Link.ends, List.length_cons,
        List.length_nil]
      omega

theorem open_ends_le (graph : Graph) (known : List String) :
    graph.openEnds known ≤ 2 * graph.liveLinks.length :=
  graph.live_ends_length ▸ List.countP_le_length

theorem neighbours_length_le (graph : Graph) (node : String) :
    (graph.neighbours node).length ≤ graph.liveEnds.count node := by
  unfold neighbours liveEnds
  split
  · induction graph.liveLinks with
    | nil => exact Nat.le_refl _
    | cons link rest induction =>
        have here : (link.hopsFrom node).length = link.ends.count node := by
          by_cases atSource : link.source = node <;> by_cases atTarget : link.target = node <;>
            simp [Link.hopsFrom, Link.ends, atSource, atTarget]
        simp only [List.flatMap_cons, List.length_append, List.count_append]
        omega
  · exact Nat.zero_le _

theorem open_ends_cons (graph : Graph) {known : List String} {node : String}
    (fresh : node ∉ known) :
    graph.openEnds (node :: known) + graph.liveEnds.count node = graph.openEnds known := by
  unfold openEnds
  induction graph.liveEnds with
  | nil => rfl
  | cons id rest induction =>
      simp only [List.countP_cons, List.count_cons]
      by_cases same : id = node
      · subst same
        have unknown : known.contains id = false := by simpa using fresh
        have closed : (id :: known).contains id = true := by simp
        simp only [unknown, closed, beq_self_eq_true, Bool.not_true, Bool.not_false, if_true,
          Bool.false_eq_true, if_false]
        omega
      · have unchanged : (node :: known).contains id = known.contains id := by simp [same]
        have other : (id == node) = false := by simpa using same
        simp only [unchanged, other, Bool.false_eq_true, if_false]
        omega

end Graph

/-- A search as its loop goes on: the nodes visited so far in no order that matters, the steps
settled so far, the place of each settled node, and the steps that wait. -/
structure Exploration where
  visited : List String
  settled : List Step
  index : Dictionary Nat
  queue : List Step

namespace Exploration

def waiting (queue : List Step) : Exploration := ⟨[], [], .empty, queue⟩

def search (exploration : Exploration) : Search := ⟨exploration.settled, exploration.queue⟩

/-- Visits the node of a step and enters it as the next settled one. -/
def settle (exploration : Exploration) (step : Step) (waiting : List Step) : Exploration where
  visited := step.node :: exploration.visited
  settled := exploration.settled ++ [step]
  index := exploration.index.insert step.node exploration.settled.length
  queue := waiting

/-- Lets the neighbours of the node that is settled at a place wait, but for those visited. -/
def await (exploration : Exploration) (graph : Graph) (node : String) (place : Nat) :
    Exploration :=
  { exploration with
    queue := exploration.queue ++ ((graph.neighbours node).filter fun hop =>
      !exploration.visited.contains hop.node).map fun hop =>
        ⟨hop.node, some hop.link, some place⟩ }

/-- The loop: how many steps it takes off the queue until it ends, and what it ends with. It ends
when no step waits any more, or as soon as the goal is settled. -/
inductive Loop (graph : Graph) (goal : Option String) : Nat → Exploration → Exploration → Prop
  | done {exploration : Exploration} (empty : exploration.queue = []) :
      Loop graph goal 0 exploration exploration
  | skip {exploration last : Exploration} {step : Step} {waiting : List Step} {dequeued : Nat}
      (next : exploration.queue = step :: waiting) (known : step.node ∈ exploration.visited)
      (onward : Loop graph goal dequeued { exploration with queue := waiting } last) :
      Loop graph goal (dequeued + 1) exploration last
  | stop {exploration : Exploration} {step : Step} {waiting : List Step}
      (next : exploration.queue = step :: waiting) (fresh : step.node ∉ exploration.visited)
      (atGoal : goal = some step.node) :
      Loop graph goal 1 exploration (exploration.settle step waiting)
  | expand {exploration last : Exploration} {step : Step} {waiting : List Step} {dequeued : Nat}
      (next : exploration.queue = step :: waiting) (fresh : step.node ∉ exploration.visited)
      (notGoal : goal ≠ some step.node)
      (onward : Loop graph goal dequeued
        ((exploration.settle step waiting).await graph step.node exploration.settled.length) last) :
      Loop graph goal (dequeued + 1) exploration last

variable {graph : Graph} {goal : Option String} {exploration last : Exploration} {dequeued : Nat}

theorem Loop.unique {other : Exploration} {dequeued' : Nat}
    (loop : Loop graph goal dequeued exploration last)
    (loop' : Loop graph goal dequeued' exploration other) : dequeued = dequeued' ∧ last = other := by
  induction loop generalizing other dequeued' with
  | done empty =>
      cases loop' with
      | done => exact ⟨rfl, rfl⟩
      | skip next | stop next | expand next => simp [empty] at next
  | skip next known _ induction =>
      cases loop' with
      | done empty => simp [empty] at next
      | skip next' _ onward =>
          obtain ⟨rfl, rfl⟩ := List.cons.inj (next.symm.trans next')
          obtain ⟨rfl, rfl⟩ := induction onward
          exact ⟨rfl, rfl⟩
      | stop next' fresh | expand next' fresh =>
          obtain ⟨rfl, rfl⟩ := List.cons.inj (next.symm.trans next')
          exact absurd known fresh
  | stop next fresh atGoal =>
      cases loop' with
      | done empty => simp [empty] at next
      | skip next' known =>
          obtain ⟨rfl, rfl⟩ := List.cons.inj (next.symm.trans next')
          exact absurd known fresh
      | stop next' =>
          obtain ⟨rfl, rfl⟩ := List.cons.inj (next.symm.trans next')
          exact ⟨rfl, rfl⟩
      | expand next' _ notGoal =>
          obtain ⟨rfl, rfl⟩ := List.cons.inj (next.symm.trans next')
          exact absurd atGoal notGoal
  | expand next fresh notGoal _ induction =>
      cases loop' with
      | done empty => simp [empty] at next
      | skip next' known =>
          obtain ⟨rfl, rfl⟩ := List.cons.inj (next.symm.trans next')
          exact absurd known fresh
      | stop next' _ atGoal =>
          obtain ⟨rfl, rfl⟩ := List.cons.inj (next.symm.trans next')
          exact absurd atGoal notGoal
      | expand next' _ _ onward =>
          obtain ⟨rfl, rfl⟩ := List.cons.inj (next.symm.trans next')
          obtain ⟨rfl, rfl⟩ := induction onward
          exact ⟨rfl, rfl⟩

/-- What the loop keeps to be quick agrees with what is settled: no node is settled twice, those
visited are those settled, and the index gives the place of each. -/
structure Indexed (exploration : Exploration) : Prop where
  visited : ∀ node, node ∈ exploration.visited ↔ node ∈ exploration.settled.map (·.node)
  distinct : (exploration.settled.map (·.node)).Nodup
  index : ∀ node place, exploration.index.get? node = some place ↔
    ∃ step, exploration.settled[place]? = some step ∧ step.node = node

namespace Indexed

theorem waiting (queue : List Step) : (Exploration.waiting queue).Indexed := by
  constructor <;> simp [Exploration.waiting]

theorem with_queue (indexed : exploration.Indexed) (queue : List Step) :
    Indexed { exploration with queue := queue } :=
  ⟨indexed.visited, indexed.distinct, indexed.index⟩

theorem settle (indexed : exploration.Indexed) {step : Step} (waiting : List Step)
    (fresh : step.node ∉ exploration.visited) : (exploration.settle step waiting).Indexed := by
  have unsettled : step.node ∉ exploration.settled.map (·.node) :=
    fun member => fresh ((indexed.visited _).2 member)
  constructor
  · intro node
    simp only [Exploration.settle, List.mem_cons, indexed.visited, List.map_append, List.map_cons,
      List.map_nil, List.mem_append, List.not_mem_nil, or_false]
    exact or_comm
  · simp only [Exploration.settle, List.map_append, List.map_cons, List.map_nil]
    refine List.nodup_append.2 ⟨indexed.distinct, List.nodup_singleton _, ?_⟩
    intro node member other last same
    rw [List.mem_singleton.1 last] at same
    exact unsettled (same ▸ member)
  · intro node place
    simp only [Exploration.settle, Dictionary.get?_insert]
    by_cases same : node = step.node
    · subst same
      rw [if_pos rfl]
      constructor
      · intro found
        obtain rfl := Option.some.inj found
        exact ⟨step, List.getElem?_concat_length, rfl⟩
      · rintro ⟨other, here, sameNode⟩
        -- The node was not settled before, so its place is the last one.
        rcases Nat.lt_or_ge place exploration.settled.length with before | after
        · rw [List.getElem?_append_left before] at here
          exact absurd (List.mem_map.2 ⟨other, List.mem_of_getElem? here, sameNode⟩) unsettled
        · have bound := (List.getElem?_eq_some_iff.1 here).1
          rw [List.length_append, List.length_singleton] at bound
          exact congrArg some (by omega)
    · rw [if_neg same, indexed.index]
      constructor
      · rintro ⟨other, here, sameNode⟩
        have bound := (List.getElem?_eq_some_iff.1 here).1
        exact ⟨other, (List.getElem?_append_left bound).trans here, sameNode⟩
      · rintro ⟨other, here, sameNode⟩
        rcases Nat.lt_trichotomy place exploration.settled.length with before | atEnd | beyond
        · rw [List.getElem?_append_left before] at here
          exact ⟨other, here, sameNode⟩
        · rw [atEnd, List.getElem?_concat_length] at here
          obtain rfl := Option.some.inj here
          exact absurd sameNode.symm same
        · rw [List.getElem?_eq_none (by simp; omega)] at here
          cases here

theorem await (indexed : exploration.Indexed) (graph : Graph) (node : String) (place : Nat) :
    (exploration.await graph node place).Indexed :=
  indexed.with_queue _

theorem loop (indexed : exploration.Indexed) (loop : Loop graph goal dequeued exploration last) :
    last.Indexed := by
  induction loop with
  | done => exact indexed
  | skip _ _ _ induction => exact induction (indexed.with_queue _)
  | stop _ fresh _ => exact indexed.settle _ fresh
  | expand _ fresh _ _ induction => exact induction ((indexed.settle _ fresh).await _ _ _)

theorem place_eq (indexed : exploration.Indexed) (node : String) :
    exploration.search.place? node = exploration.index.get? node := by
  apply Option.ext
  intro place
  rw [indexed.index, Search.place?, List.findIdx?_eq_some_iff_getElem]
  constructor
  · rintro ⟨bound, atNode, _⟩
    exact ⟨_, List.getElem?_eq_getElem bound, by simpa using atNode⟩
  · rintro ⟨step, here, rfl⟩
    obtain ⟨bound, rfl⟩ := List.getElem?_eq_some_iff.1 here
    refine ⟨bound, by simp [search], fun earlier before => ?_⟩
    have different := List.pairwise_iff_getElem.1 (List.pairwise_map.1 indexed.distinct) earlier
      place (Nat.lt_trans before bound) bound before
    simpa [search] using different

theorem has_settled_iff (indexed : exploration.Indexed) (node : String) :
    exploration.search.hasSettled node = true ↔ node ∈ exploration.visited := by
  rw [indexed.visited, Search.hasSettled, List.any_eq_true, List.mem_map]
  simp [search]

/-- Expanding a search is settling the step and letting the neighbours wait. -/
theorem expand_eq (indexed : exploration.Indexed) (graph : Graph) {step : Step}
    (waiting : List Step) (fresh : step.node ∉ exploration.visited) :
    exploration.search.expand graph step waiting =
      ((exploration.settle step waiting).await graph step.node
        exploration.settled.length).search := by
  have settled := indexed.settle waiting fresh
  have alike : ∀ hop : Hop, ((exploration.settled ++ [step]).any fun earlier =>
      earlier.node == hop.node) = (exploration.settle step waiting).visited.contains hop.node := by
    intro hop
    rw [Bool.eq_iff_iff, List.contains_iff_mem]
    exact settled.has_settled_iff hop.node
  simp only [Search.expand, search, alike]
  rfl

/-- Whatever the limit on its turns, as long as it is not less than the loop needs, the search with
the limit is the loop. -/
theorem run_eq (indexed : exploration.Indexed) (loop : Loop graph goal dequeued exploration last)
    {limit : Nat} (enough : dequeued ≤ limit) :
    Search.run graph goal limit exploration.search = last.search := by
  induction loop generalizing limit with
  | @done exploration empty =>
      cases limit with
      | zero => rfl
      | succ limit => simp only [Search.run, search, empty]
  | @skip exploration last step waiting dequeued next known _ induction =>
      obtain ⟨limit, rfl⟩ := Nat.exists_eq_add_of_le' (Nat.le_of_add_left_le enough)
      have settled := (indexed.has_settled_iff step.node).2 known
      have unfolded : Search.run graph goal (limit + 1) exploration.search =
          Search.run graph goal limit ⟨exploration.settled, waiting⟩ := by
        rw [Search.run, show exploration.search.queue = _ from next]
        exact if_pos settled
      rw [unfolded]
      exact induction (indexed.with_queue waiting) (by omega)
  | @stop exploration step waiting next fresh atGoal =>
      obtain ⟨limit, rfl⟩ := Nat.exists_eq_add_of_le' enough
      have unsettled := mt (indexed.has_settled_iff step.node).1 fresh
      rw [Search.run, show exploration.search.queue = _ from next]
      simp only [if_neg unsettled, if_pos atGoal]
      rfl
  | @expand exploration last step waiting dequeued next fresh notGoal _ induction =>
      obtain ⟨limit, rfl⟩ := Nat.exists_eq_add_of_le' (Nat.le_of_add_left_le enough)
      have unsettled := mt (indexed.has_settled_iff step.node).1 fresh
      rw [Search.run, show exploration.search.queue = _ from next]
      simp only [if_neg unsettled, if_neg notGoal]
      rw [indexed.expand_eq graph waiting fresh]
      exact induction ((indexed.settle waiting fresh).await _ _ _) (by omega)

end Indexed

/-- The turns that the loop can still take: the steps that wait, and the ends still open. -/
def budget (graph : Graph) (exploration : Exploration) : Nat :=
  exploration.queue.length + graph.openEnds exploration.visited

theorem budget_start_le (graph : Graph) (source : Step) :
    (waiting [source]).budget graph ≤ graph.searchLimit := by
  have bound := graph.open_ends_le (waiting [source]).visited
  simp only [budget, waiting, Graph.searchLimit, List.length_singleton] at bound ⊢
  omega

theorem budget_expand_lt (graph : Graph) {step : Step} {waiting : List Step}
    (next : exploration.queue = step :: waiting) (fresh : step.node ∉ exploration.visited) :
    ((exploration.settle step waiting).await graph step.node
      exploration.settled.length).budget graph < exploration.budget graph := by
  have used := graph.open_ends_cons fresh
  have foundBound := graph.neighbours_length_le step.node
  have filtered := List.length_filter_le (fun hop : Hop =>
    !(step.node :: exploration.visited).contains hop.node) (graph.neighbours step.node)
  simp only [budget, await, settle, next, List.length_append, List.length_map, List.length_cons]
  omega

/-- The loop ends after no more turns than its budget holds. -/
theorem exists_loop (graph : Graph) (goal : Option String) (exploration : Exploration) :
    ∃ dequeued last, Loop graph goal dequeued exploration last ∧
      dequeued ≤ exploration.budget graph := by
  generalize size : exploration.budget graph = bound
  induction bound using Nat.strongRecOn generalizing exploration with
  | ind bound induction =>
      subst size
      cases next : exploration.queue with
      | nil => exact ⟨0, exploration, .done next, Nat.zero_le _⟩
      | cons step waiting =>
          by_cases known : step.node ∈ exploration.visited
          · have less : budget graph { exploration with queue := waiting } <
                exploration.budget graph := by
              simp only [budget, next, List.length_cons]
              omega
            obtain ⟨dequeued, last, loop, few⟩ := induction _ less _ rfl
            exact ⟨dequeued + 1, last, .skip next known loop, by omega⟩
          · by_cases atGoal : goal = some step.node
            · refine ⟨1, _, .stop next known atGoal, ?_⟩
              simp only [budget, next, List.length_cons]
              omega
            · have less := budget_expand_lt graph next known
              obtain ⟨dequeued, last, loop, few⟩ := induction _ less _ rfl
              exact ⟨dequeued + 1, last, .expand next known atGoal loop, by omega⟩

end Exploration

end NetworkTwin
