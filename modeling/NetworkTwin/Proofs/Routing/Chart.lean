import NetworkTwin.Proofs.Routing.Walk

/-!
Charts: searches in which every step carries the walk that it stands for. Forgetting the walks
gives the search itself. The settled part of a chart is a tree of first walks, and the queue is kept
in the order of the walks although nothing in the search compares them.
-/

namespace NetworkTwin

namespace Graph

variable {graph : Graph} {node : String}

/-- The neighbours of a node, each with the place of the link that leads to it. -/
def placedHops (graph : Graph) (node : String) : List (Nat × Hop) :=
  if graph.declares node then
    (graph.links.zipIdx.filter fun item => !item.1.failed).flatMap fun item =>
      (item.1.hopsFrom node).map fun hop => (item.2, hop)
  else []

theorem placed_hops_map_snd (graph : Graph) (node : String) :
    (graph.placedHops node).map (·.2) = graph.neighbours node := by
  unfold placedHops neighbours liveLinks
  split
  · have links : (graph.links.zipIdx.filter fun item => !item.1.failed).map (·.1) =
        graph.links.filter fun link => !link.failed := by
      conv_rhs => rw [← List.zipIdx_map_fst 0 graph.links, List.filter_map]
      rfl
    rw [← links, List.flatMap_map, List.map_flatMap]
    simp
  · rfl

theorem mem_placed_hops {place : Nat} {hop : Hop} :
    (place, hop) ∈ graph.placedHops node ↔
      graph.declares node = true ∧ ∃ link, graph.links[place]? = some link ∧
        link.failed = false ∧ hop.link = link.id ∧ link.Joins node hop.node := by
  unfold placedHops
  split
  · rename_i declared
    simp only [declared, List.mem_flatMap, List.mem_filter, List.mem_map, Prod.mk.injEq,
      Bool.not_eq_true', Link.mem_hops_from, List.mem_zipIdx_iff_getElem?, true_and]
    constructor
    · rintro ⟨⟨link, _⟩, ⟨found, live⟩, _, ⟨id, joins⟩, rfl, rfl⟩
      exact ⟨link, found, live, id, joins⟩
    · rintro ⟨link, found, live, id, joins⟩
      exact ⟨(link, place), ⟨found, live⟩, hop, ⟨id, joins⟩, rfl, rfl⟩
  · rename_i undeclared
    simp [undeclared]

theorem placed_hops_sorted (graph : Graph) (node : String) :
    (graph.placedHops node).Pairwise fun earlier later => earlier.1 ≤ later.1 := by
  unfold placedHops
  split
  · have increasing : graph.links.zipIdx.Pairwise fun earlier later => earlier.2 < later.2 := by
      rw [← List.pairwise_map (f := Prod.snd) (R := (· < ·)), List.zipIdx_map_snd]
      exact List.pairwise_lt_range'
    refine List.pairwise_flatMap.2 ⟨fun item _ => ?_, ?_⟩
    · exact List.pairwise_map.2 (List.pairwise_of_forall fun _ _ => Nat.le_refl _)
    · refine (increasing.filter _).imp ?_
      intro earlier later less first firstMember second secondMember
      obtain ⟨_, _, rfl⟩ := List.mem_map.1 firstMember
      obtain ⟨_, _, rfl⟩ := List.mem_map.1 secondMember
      exact Nat.le_of_lt less
  · exact List.Pairwise.nil

end Graph

/-- A step of a search with the walk from the source that it stands for. -/
structure Mark where
  step : Step
  route : Route
  places : List Nat

namespace Mark

def node (mark : Mark) : String := mark.step.node

def root (source : String) : Mark := ⟨⟨source, none, none⟩, Route.stay source, []⟩

/-- The mark of a neighbour over the link at a place, found from a mark that is settled as the
`parent`-th. -/
def extend (mark : Mark) (parent place : Nat) (hop : Hop) : Mark :=
  ⟨⟨hop.node, some hop.link, some parent⟩, mark.route.extend hop.node hop.link,
    mark.places ++ [place]⟩

@[simp] theorem node_extend (mark : Mark) (parent place : Nat) (hop : Hop) :
    (mark.extend parent place hop).node = hop.node := rfl

@[simp] theorem step_extend (mark : Mark) (parent place : Nat) (hop : Hop) :
    (mark.extend parent place hop).step = ⟨hop.node, some hop.link, some parent⟩ := rfl

@[simp] theorem route_extend (mark : Mark) (parent place : Nat) (hop : Hop) :
    (mark.extend parent place hop).route = mark.route.extend hop.node hop.link := rfl

/-- How a mark arises: it is that of the source, or it was found from an earlier mark. -/
inductive Grows (source : String) (earlier : List Mark) : Mark → Prop
  | root : Grows source earlier (Mark.root source)
  | extend {before : Mark} {parent place : Nat} {hop : Hop}
      (found : earlier[parent]? = some before) :
      Grows source earlier (before.extend parent place hop)

/-- A mark still arises in the same way when more is settled. -/
theorem Grows.append {source : String} {earlier : List Mark} {mark : Mark}
    (grows : Grows source earlier mark) (more : List Mark) :
    Grows source (earlier ++ more) mark := by
  cases grows with
  | root => exact .root
  | extend found =>
      have bound := (List.getElem?_eq_some_iff.1 found).1
      exact .extend ((List.getElem?_append_left bound).trans found)

end Mark

/-- A search with its walks: the marks settled so far in order, and those that wait. -/
structure Chart where
  settled : List Mark
  queue : List Mark

namespace Chart

def search (chart : Chart) : Search := ⟨chart.settled.map (·.step), chart.queue.map (·.step)⟩

def start (source : String) : Chart := ⟨[], [Mark.root source]⟩

/-- The marks of the neighbours of a mark that are not settled yet, when the mark is settled as the
`parent`-th. -/
def found (graph : Graph) (settled : List Mark) (parent : Nat) (mark : Mark) : List Mark :=
  ((graph.placedHops mark.node).filter fun item => !(settled.map Mark.node).contains item.2.node).map
    fun item => mark.extend parent item.1 item.2

/-- Settles a mark and lets its neighbours wait that are not settled yet. -/
def expand (graph : Graph) (settled : List Mark) (mark : Mark) (waiting : List Mark) : Chart :=
  ⟨settled ++ [mark], waiting ++ found graph (settled ++ [mark]) settled.length mark⟩

theorem search_start (source : String) : (start source).search = Search.start source := rfl

theorem any_node_eq_contains (marks : List Mark) (node : String) :
    ((marks.map (·.step)).any fun step => step.node == node) =
      (marks.map Mark.node).contains node := by
  rw [List.any_map, List.contains_eq_any_beq, List.any_map]
  congr 1
  funext mark
  exact BEq.comm

theorem has_settled_iff {search : Search} {settled : List Mark}
    (charted : search.settled = settled.map (·.step)) {node : String} :
    search.hasSettled node = true ↔ node ∈ settled.map Mark.node := by
  rw [Search.hasSettled, charted, any_node_eq_contains, List.contains_iff_mem]

theorem search_expand (graph : Graph) (settled : List Mark) (mark : Mark) (waiting : List Mark) :
    (expand graph settled mark waiting).search =
      (Chart.search ⟨settled, waiting⟩).expand graph mark.step (waiting.map (·.step)) := by
  have place : (settled.map (·.step)).length = settled.length := List.length_map _
  have marks : settled.map (·.step) ++ [mark.step] = (settled ++ [mark]).map (·.step) := by simp
  simp only [expand, search, Search.expand, place, marks, any_node_eq_contains,
    ← graph.placed_hops_map_snd mark.step.node, List.filter_map, List.map_map]
  simp only [found, List.map_append, List.map_map]
  rfl

end Chart

end NetworkTwin
