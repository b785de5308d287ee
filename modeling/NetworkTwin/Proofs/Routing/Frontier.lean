import NetworkTwin.Proofs.Routing.Chart

/-!
What every step of a search keeps. The settled marks carry first walks, and each walk from the
source either ends at a settled node that no later walk could improve, or comes after the walk of a
mark that waits. So the head of the queue, if it is not settled yet, carries a first walk.
-/

namespace NetworkTwin

/-- The settled marks of a search: a tree that grows from the source, with one first walk for each
node, and these walks repeat no node and stay inside the tree. -/
structure SearchTree (graph : Graph) (source : String) (settled : List Mark) : Prop where
  grows : ∀ place mark, settled[place]? = some mark → Mark.Grows source (settled.take place) mark
  leads : ∀ mark ∈ settled, graph.LeadsFirst source mark.node mark.route mark.places
  distinct : (settled.map Mark.node).Nodup
  simple : ∀ mark ∈ settled, mark.route.path.Nodup
  inside : ∀ mark ∈ settled, ∀ node ∈ mark.route.path, node ∈ settled.map Mark.node

/-- A mark that waits: it grows from the tree, and its walk leaves settled nodes only. -/
structure Waits (graph : Graph) (source : String) (settled : List Mark) (mark : Mark) : Prop where
  grows : Mark.Grows source settled mark
  leads : graph.Leads source mark.node mark.route mark.places
  simple : mark.route.path.Nodup
  inside : ∀ node ∈ mark.route.path.dropLast, node ∈ settled.map Mark.node

theorem Waits.append {graph : Graph} {source : String} {settled : List Mark} {mark : Mark}
    (waits : Waits graph source settled mark) (more : List Mark) :
    Waits graph source (settled ++ more) mark where
  grows := waits.grows.append more
  leads := waits.leads
  simple := waits.simple
  inside node visited := by
    rw [List.map_append]
    exact List.mem_append_left _ (waits.inside node visited)

namespace Chart

/-- What holds of the charts of a search from a node between two steps. -/
structure Sound (graph : Graph) (source : String) (chart : Chart) : Prop where
  tree : SearchTree graph source chart.settled
  waits : ∀ mark ∈ chart.queue, Waits graph source chart.settled mark
  rooted : ∃ mark ∈ chart.settled ++ chart.queue, mark.node = source ∧ mark.places = []
  ordered : (chart.settled ++ chart.queue).Pairwise fun earlier later =>
    PlacesLE earlier.places later.places
  closed : ∀ mark ∈ chart.settled, ∀ place hop, (place, hop) ∈ graph.placedHops mark.node →
    ∃ other ∈ chart.settled ++ chart.queue,
      other.node = hop.node ∧ PlacesLE other.places (mark.places ++ [place])

variable {graph : Graph} {source : String} {settled waiting : List Mark} {mark : Mark}

theorem sound_start (graph : Graph) (source : String) : (start source).Sound graph source where
  tree := by constructor <;> simp [start]
  waits := by
    intro mark member
    obtain rfl : mark = Mark.root source := by simpa [start] using member
    exact ⟨.root, (graph.leads_first_stay source).toLeads, by simp [Mark.root, Route.stay],
      by simp [Mark.root, Route.stay]⟩
  rooted := ⟨Mark.root source, by simp [start], rfl, rfl⟩
  ordered := by simp [start]
  closed := by simp [start]

/-- A mark whose node is settled already can be dropped: the earlier mark stands in for it. -/
theorem sound_skip (sound : Sound graph source ⟨settled, mark :: waiting⟩)
    (known : mark.node ∈ settled.map Mark.node) : Sound graph source ⟨settled, waiting⟩ := by
  obtain ⟨earlier, earlierMember, sameNode⟩ := List.mem_map.1 known
  have earlierLE : PlacesLE earlier.places mark.places :=
    (List.pairwise_append.1 sound.ordered).2.2 earlier earlierMember mark List.mem_cons_self
  have replaced : ∀ other ∈ settled ++ mark :: waiting, ∃ kept ∈ settled ++ waiting,
      kept.node = other.node ∧ PlacesLE kept.places other.places := by
    intro other member
    rcases List.mem_append.1 member with old | later
    · exact ⟨other, List.mem_append_left _ old, rfl, PlacesLE.refl _⟩
    · rcases List.mem_cons.1 later with rfl | later
      · exact ⟨earlier, List.mem_append_left _ earlierMember, sameNode, earlierLE⟩
      · exact ⟨other, List.mem_append_right _ later, rfl, PlacesLE.refl _⟩
  constructor
  · exact sound.tree
  · exact fun other member => sound.waits other (List.mem_cons_of_mem _ member)
  · obtain ⟨root, member, atSource, noPlaces⟩ := sound.rooted
    obtain ⟨kept, keptMember, keptNode, keptLE⟩ := replaced root member
    refine ⟨kept, keptMember, keptNode.trans atSource, ?_⟩
    rw [noPlaces] at keptLE
    exact PlacesLE.antisymm keptLE (PlacesLE.nil _)
  · refine sound.ordered.sublist ?_
    exact (List.Sublist.refl settled).append (List.sublist_cons_self mark waiting)
  · intro other member place hop hopMember
    obtain ⟨next, nextMember, nextNode, nextLE⟩ := sound.closed other member place hop hopMember
    obtain ⟨kept, keptMember, keptNode, keptLE⟩ := replaced next nextMember
    exact ⟨kept, keptMember, keptNode.trans nextNode, keptLE.trans nextLE⟩

/-- Every walk from the source has been followed to its end, or comes after a mark that waits. -/
theorem sound_frontier {chart : Chart} (sound : chart.Sound graph source) {target : String}
    {route : Route} {places : List Nat} (leads : graph.Leads source target route places) :
    (∃ mark ∈ chart.settled, mark.node = target ∧ PlacesLE mark.places places) ∨
      ∃ mark ∈ chart.queue, PlacesLE mark.places places := by
  obtain ⟨walk, ends, departs⟩ := leads
  induction walk generalizing target with
  | stay =>
      obtain ⟨root, member, atSource, noPlaces⟩ := sound.rooted
      obtain rfl := Route.stay_ends_at.1 ends
      rcases List.mem_append.1 member with settledMember | queueMember
      · exact Or.inl ⟨root, settledMember, atSource, noPlaces ▸ PlacesLE.nil _⟩
      · exact Or.inr ⟨root, queueMember, noPlaces ▸ PlacesLE.nil _⟩
  | @extend route places node next place link walk lastEnds found live joins induction =>
      obtain rfl := Route.extend_ends_at.1 ends
      have leaves : ∀ node ∈ route.path, graph.declares node = true := by
        simpa [Route.extend] using departs
      rcases induction lastEnds fun node member => leaves node (List.dropLast_subset _ member) with
        ⟨mark, member, rfl, order⟩ | ⟨mark, member, order⟩
      · have hopMember : (place, Hop.mk next link.id) ∈ graph.placedHops mark.node :=
          Graph.mem_placed_hops.2 ⟨leaves _ lastEnds.mem, link, found, live, rfl, joins⟩
        obtain ⟨other, otherMember, sameNode, otherLE⟩ :=
          sound.closed mark member place _ hopMember
        have before : PlacesLE other.places (places ++ [place]) :=
          otherLE.trans (order.append_same place)
        rcases List.mem_append.1 otherMember with settledMember | queueMember
        · exact Or.inl ⟨other, settledMember, sameNode, before⟩
        · exact Or.inr ⟨other, queueMember, before⟩
      · exact Or.inr ⟨mark, member, order.trans (PlacesLE.append_right _ _)⟩

/-- The head of the queue carries a first walk if its node is not settled yet. -/
theorem leads_first_head (sound : Sound graph source ⟨settled, mark :: waiting⟩)
    (fresh : mark.node ∉ settled.map Mark.node) :
    graph.LeadsFirst source mark.node mark.route mark.places where
  toLeads := (sound.waits mark List.mem_cons_self).leads
  first other otherPlaces leads := by
    rcases sound_frontier sound leads with ⟨earlier, member, sameNode, _⟩ | ⟨waiter, member, order⟩
    · exact absurd (List.mem_map.2 ⟨earlier, member, sameNode⟩) fresh
    · rcases List.mem_cons.1 member with rfl | later
      · exact order
      · have queueOrdered := (List.pairwise_append.1 sound.ordered).2.1
        exact ((List.pairwise_cons.1 queueOrdered).1 waiter later).trans order

theorem tree_settle (sound : Sound graph source ⟨settled, mark :: waiting⟩)
    (fresh : mark.node ∉ settled.map Mark.node) : SearchTree graph source (settled ++ [mark]) := by
  have head := sound.waits mark List.mem_cons_self
  have nodes : (settled ++ [mark]).map Mark.node = settled.map Mark.node ++ [mark.node] := by simp
  have eachMark {property : Mark → Prop} (old : ∀ earlier ∈ settled, property earlier)
      (new : property mark) : ∀ earlier ∈ settled ++ [mark], property earlier := by
    intro earlier member
    rcases List.mem_append.1 member with earlierMember | last
    · exact old earlier earlierMember
    · rw [List.mem_singleton.1 last]
      exact new
  constructor
  · intro place earlier here
    rcases Nat.lt_or_ge place settled.length with before | beyond
    · rw [List.getElem?_append_left before] at here
      rw [List.take_append_of_le_length (Nat.le_of_lt before)]
      exact sound.tree.grows place earlier here
    · have bound := (List.getElem?_eq_some_iff.1 here).1
      obtain rfl : place = settled.length := by
        simp only [List.length_append, List.length_singleton] at bound
        omega
      obtain rfl : mark = earlier := by simpa using here
      simpa using head.grows
  · exact eachMark sound.tree.leads (leads_first_head sound fresh)
  · rw [nodes]
    refine List.nodup_append.2 ⟨sound.tree.distinct, by simp, ?_⟩
    intro node member other otherMember same
    rw [List.mem_singleton.1 otherMember] at same
    exact fresh (same ▸ member)
  · exact eachMark sound.tree.simple head.simple
  · rw [nodes]
    refine eachMark ?_ ?_
    · exact fun earlier member node visited =>
        List.mem_append_left _ (sound.tree.inside earlier member node visited)
    · intro node visited
      rw [head.leads.ends.path_eq] at visited
      exact (List.mem_append.1 visited).elim
        (fun left => List.mem_append_left _ (head.inside node left)) (List.mem_append_right _)

theorem waits_found (tree : SearchTree graph source (settled ++ [mark])) {other : Mark}
    (member : other ∈ found graph (settled ++ [mark]) settled.length mark) :
    Waits graph source (settled ++ [mark]) other := by
  obtain ⟨⟨place, hop⟩, hopMember, rfl⟩ := List.mem_map.1 member
  obtain ⟨hopMember, unsettled⟩ := List.mem_filter.1 hopMember
  obtain ⟨declared, link, found, live, id, joins⟩ := Graph.mem_placed_hops.1 hopMember
  have fresh : hop.node ∉ (settled ++ [mark]).map Mark.node := by
    simpa using unsettled
  have markMember : mark ∈ settled ++ [mark] := by simp
  have leads := (tree.leads mark markMember).toLeads
  constructor
  · exact .extend (by simp)
  · refine ⟨?_, by simp, ?_⟩
    · rw [Mark.route_extend, id]
      exact .extend leads.walk leads.ends found live joins
    · simpa [Route.extend] using ((Graph.leads_iff_connects declared).1 leads).declared
  · refine List.nodup_append.2 ⟨tree.simple mark markMember, by simp, ?_⟩
    intro node visited last lastMember same
    rw [List.mem_singleton.1 lastMember] at same
    exact fresh (same ▸ tree.inside mark markMember node visited)
  · simpa [Route.extend] using tree.inside mark markMember

/-- A mark that waited before comes before each neighbour that is found from the newest settled
mark, because its own parent was settled earlier. -/
theorem waiting_le_found (sound : Sound graph source ⟨settled, mark :: waiting⟩)
    (fresh : mark.node ∉ settled.map Mark.node) {waiter other : Mark} (member : waiter ∈ waiting)
    (otherMember : other ∈ found graph (settled ++ [mark]) settled.length mark) :
    PlacesLE waiter.places other.places := by
  obtain ⟨⟨place, hop⟩, _, rfl⟩ := List.mem_map.1 otherMember
  have grows := (sound.waits waiter (List.mem_cons_of_mem _ member)).grows
  cases grows with
  | root => exact PlacesLE.nil _
  | @extend before parent place' hop' parentFound =>
      have beforeMember := List.mem_of_getElem? parentFound
      have order : PlacesLE before.places mark.places :=
        (List.pairwise_append.1 sound.ordered).2.2 before beforeMember mark List.mem_cons_self
      -- Equal places would make it one walk to two marks, but only one of them is settled.
      refine order.append_of_ne ?_ place' place
      intro samePlaces
      have beforeLeads := (sound.tree.leads before beforeMember).toLeads
      have markLeads := (sound.waits mark List.mem_cons_self).leads
      have sameRoute : before.route = mark.route :=
        beforeLeads.walk.route_unique (samePlaces ▸ markLeads.walk)
      have sameNode : before.node = mark.node :=
        Route.ends_at_unique beforeLeads.ends (sameRoute ▸ markLeads.ends)
      exact fresh (List.mem_map.2 ⟨before, beforeMember, sameNode⟩)

theorem found_ordered (graph : Graph) (settled : List Mark) (parent : Nat) (mark : Mark) :
    (found graph settled parent mark).Pairwise fun earlier later =>
      PlacesLE earlier.places later.places :=
  List.pairwise_map.2 (((graph.placed_hops_sorted mark.node).filter _).imp
    fun order => PlacesLE.append_last _ order)

theorem sound_expand (sound : Sound graph source ⟨settled, mark :: waiting⟩)
    (fresh : mark.node ∉ settled.map Mark.node) :
    (expand graph settled mark waiting).Sound graph source := by
  have tree := tree_settle sound fresh
  have kept : ∀ other ∈ settled ++ mark :: waiting,
      other ∈ (settled ++ [mark]) ++
        (waiting ++ found graph (settled ++ [mark]) settled.length mark) := by
    intro other member
    rcases List.mem_append.1 member with old | later
    · exact List.mem_append_left _ (List.mem_append_left _ old)
    · rcases List.mem_cons.1 later with rfl | later
      · simp
      · exact List.mem_append_right _ (List.mem_append_left _ later)
  have beforeMark : ∀ earlier ∈ settled ++ [mark], PlacesLE earlier.places mark.places := by
    intro earlier member
    rcases List.mem_append.1 member with old | last
    · exact (List.pairwise_append.1 sound.ordered).2.2 earlier old mark List.mem_cons_self
    · rw [List.mem_singleton.1 last]
      exact PlacesLE.refl _
  constructor
  · exact tree
  · intro other member
    rcases List.mem_append.1 member with later | new
    · exact (sound.waits other (List.mem_cons_of_mem _ later)).append [mark]
    · exact waits_found tree new
  · obtain ⟨root, member, rooted⟩ := sound.rooted
    exact ⟨root, kept root member, rooted⟩
  · have oldOrdered : ((settled ++ [mark]) ++ waiting).Pairwise fun earlier later =>
        PlacesLE earlier.places later.places := by
      simpa using sound.ordered
    simp only [expand, ← List.append_assoc]
    refine List.pairwise_append.2 ⟨oldOrdered, found_ordered _ _ _ _, ?_⟩
    intro earlier member other otherMember
    rcases List.mem_append.1 member with old | later
    · obtain ⟨⟨place, hop⟩, _, rfl⟩ := List.mem_map.1 otherMember
      exact (beforeMark earlier old).trans (PlacesLE.append_right _ _)
    · exact waiting_le_found sound fresh later otherMember
  · intro earlier member place hop hopMember
    rcases List.mem_append.1 member with old | last
    · obtain ⟨other, otherMember, reaches⟩ := sound.closed earlier old place hop hopMember
      exact ⟨other, kept other otherMember, reaches⟩
    · obtain rfl := List.mem_singleton.1 last
      by_cases known : hop.node ∈ (settled ++ [earlier]).map Mark.node
      · obtain ⟨other, otherMember, sameNode⟩ := List.mem_map.1 known
        exact ⟨other, List.mem_append_left _ otherMember, sameNode,
          (beforeMark other otherMember).trans (PlacesLE.append_right _ _)⟩
      · refine ⟨earlier.extend settled.length place hop, ?_, rfl, PlacesLE.refl _⟩
        refine List.mem_append_right _ (List.mem_append_right _ (List.mem_map.2 ?_))
        exact ⟨(place, hop), List.mem_filter.2 ⟨hopMember, by simpa using known⟩, rfl⟩

end Chart

end NetworkTwin
