import NetworkTwin.Proofs.Faults.LastWrite

/-!
Faults again and faults in another order. What faults leave of a topology depends on which of them
fail something, in any order and however often, and on what is set last for each id. So nothing
changes when all of them come once more, or when they come in another order that keeps, for each id,
the order of the degradations: whatever goes down may do so before or after anything else.
-/

namespace NetworkTwin

/-- Whether two lists of faults amount to the same: the same faults, and the same values set last. -/
structure SameHistory (faults others : List Fault) : Prop where
  members : ∀ fault, fault ∈ faults ↔ fault ∈ others
  values : ∀ field id, lastSet? field faults id = lastSet? field others id

namespace SameHistory

variable {faults others : List Fault}

theorem settle (same : SameHistory faults others) (link : Link) (first : Bool) :
    link.settle first faults = link.settle first others := by
  have heard (field : FaultParams → Option Float) :
      link.lastHeard? field first faults = link.lastHeard? field first others := by
    rw [Link.lastHeard?, Link.lastHeard?, same.values]
  have failed : faults.any (Fault.fails first link) = others.any (Fault.fails first link) := by
    rw [Bool.eq_iff_iff, List.any_eq_true, List.any_eq_true]
    simp only [same.members]
  rw [Link.settle, Link.settle, failed, heard, heard]

theorem inject_all (same : SameHistory faults others) (graph : Graph) :
    graph.injectAll faults = graph.injectAll others := by
  rw [Graph.inject_all_eq, Graph.inject_all_eq, strike_all_eq_map_idx, strike_all_eq_map_idx]
  simp only [same.settle]

theorem twice (faults : List Fault) : SameHistory (faults ++ faults) faults where
  members fault := by rw [List.mem_append, or_self]
  values field id := by rw [last_set_append, Option.or_self]

end SameHistory

def Fault.degrades (id : String) (fault : Fault) : Bool :=
  fault.kind = .linkDegraded && fault.target = id

/-- Whether a list of faults is another one in an order that keeps, for each id, the order of the
degradations. -/
structure Rearranges (others faults : List Fault) : Prop where
  perm : others.Perm faults
  degradations : ∀ id, others.filter (Fault.degrades id) = faults.filter (Fault.degrades id)

theorem last_set_filter_degrades (field : FaultParams → Option Float) (faults : List Fault)
    (id : String) :
    lastSet? field (faults.filter (Fault.degrades id)) id = lastSet? field faults id := by
  have left (fault : Fault) : (if fault.degrades id then fault.sets? field id else none) =
      fault.sets? field id := by
    unfold Fault.degrades Fault.sets?
    by_cases degrades : fault.kind = .linkDegraded ∧ fault.target = id <;> simp [degrades]
  unfold lastSet?
  rw [List.filterMap_filter]
  simp only [left]

theorem Rearranges.same_history {faults others : List Fault} (moved : Rearranges others faults) :
    SameHistory others faults where
  members _ := moved.perm.mem_iff
  values field id := by
    rw [← last_set_filter_degrades, moved.degradations, last_set_filter_degrades]

/-- Faults that degrade nothing may come before others as well as after them. -/
theorem Rearranges.append_comm {faults downs : List Fault}
    (spare : ∀ fault ∈ downs, fault.kind ≠ .linkDegraded) :
    Rearranges (downs ++ faults) (faults ++ downs) where
  perm := List.perm_append_comm
  degradations id := by
    have none : downs.filter (Fault.degrades id) = [] := by
      refine List.filter_eq_nil_iff.2 fun fault member degrades => spare fault member ?_
      exact of_decide_eq_true (Bool.and_eq_true_iff.1 degrades).1
    rw [List.filter_append, List.filter_append, none, List.append_nil, List.nil_append]

namespace Graph

/-- The same faults once more change nothing, and neither does another order that keeps the order of
the degradations of each id. -/
theorem faults_again_or_rearranged (graph : Graph) (faults : List Fault) :
    (graph.injectAll faults).injectAll faults = graph.injectAll faults ∧
      ∀ others, Rearranges others faults → graph.injectAll others = graph.injectAll faults := by
  constructor
  · rw [← inject_all_append]
    exact (SameHistory.twice faults).inject_all graph
  · exact fun others moved => moved.same_history.inject_all graph

theorem faults_again_or_rearranged_twins :
    let slow := { Fault.plain "slow" .linkDegraded "x" with params := some ⟨some 5.0, none⟩ }
    let slower := { Fault.plain "slower" .linkDegraded "x" with params := some ⟨some 9.0, none⟩ }
    let cut := Fault.plain "cut" .linkDown "x"
    let down := Fault.plain "down" .nodeDown "b"
    Rearranges [down, cut, slow, slower] [slow, slower, down, cut] ∧
      twins.injectAll [down, cut, slow, slower] = twins.injectAll [slow, slower, down, cut] := by
  intro slow slower cut down
  have moved : Rearranges ([down, cut] ++ [slow, slower]) ([slow, slower] ++ [down, cut]) :=
    Rearranges.append_comm (by simp [down, cut, Fault.plain])
  exact ⟨moved, (faults_again_or_rearranged twins _).2 _ moved⟩

end Graph

end NetworkTwin
