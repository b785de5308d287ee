import NetworkTwin.Proofs.Text.Occurrences

/-!
What makes a topology valid: no two nodes have one id, and every link ends at declared nodes. The
report on a topology has no other errors, and its warnings do not matter here.
-/

namespace NetworkTwin

namespace Graph

/-- Whether every link ends at declared nodes. -/
def Closed (graph : Graph) : Prop :=
  ∀ link ∈ graph.links, ∀ id ∈ link.ends, graph.declares id = true

variable {graph : Graph}

theorem repeated_node_errors_eq_nil_iff : graph.repeatedNodeErrors = [] ↔ graph.nodeIds.Nodup := by
  rw [repeatedNodeErrors, List.map_eq_nil_iff, repeats_eq_nil_iff]
  simp

theorem dangling_errors_eq_nil_iff {link : Link} :
    graph.danglingErrors link = [] ↔ ∀ id ∈ link.ends, graph.declares id = true := by
  rw [danglingErrors, List.append_eq_nil_iff]
  simp [Link.ends]

theorem valid_iff : graph.validate.valid = true ↔ graph.nodeIds.Nodup ∧ graph.Closed := by
  unfold validate
  rw [List.isEmpty_iff, List.append_eq_nil_iff, repeated_node_errors_eq_nil_iff,
    List.flatMap_eq_nil_iff]
  simp only [dangling_errors_eq_nil_iff, Closed]

theorem nodup_of_valid (valid : graph.validate.valid = true) : graph.nodeIds.Nodup :=
  (valid_iff.1 valid).1

theorem closed_of_valid (valid : graph.validate.valid = true) : graph.Closed :=
  (valid_iff.1 valid).2

end Graph

end NetworkTwin
