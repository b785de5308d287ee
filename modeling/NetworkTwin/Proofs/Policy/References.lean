import NetworkTwin.Proofs.Policy.Messages

/-!
References as validation judges them and as rules use them. Validation looks for a reference among
all ids and all tags at once, and a rule holds it against the id and the tags of one node, but they
agree: a reference is reported just where it is not the wildcard and means no declared node. So a
rule with a reported reference matches no traffic with a declared node at that end.
-/

namespace NetworkTwin

namespace TagMap

variable {tags : TagMap} {reference : String}

theorem is_known_iff :
    tags.isKnown reference = true ↔ ∃ node ∈ tags.keys, reference ∈ tags.names node := by
  unfold isKnown
  rw [Bool.or_eq_true, List.any_eq_true]
  constructor
  · rintro (declared | ⟨carried, isValue, member⟩)
    · exact ⟨reference, Dictionary.mem_keys_iff.2 declared, List.mem_cons_self⟩
    · obtain ⟨node, found⟩ := Dictionary.mem_values_iff.1 isValue
      have declared : node ∈ tags.keys := by
        apply Dictionary.mem_keys_iff.2
        rw [found]
        rfl
      have tagged : reference ∈ tags.tagsOf node := by
        rw [tagsOf, found]
        exact List.contains_iff_mem.1 member
      exact ⟨node, declared, List.mem_cons_of_mem node tagged⟩
  · rintro ⟨node, declared, named⟩
    obtain ⟨carried, found⟩ := Option.isSome_iff_exists.1 (Dictionary.mem_keys_iff.1 declared)
    rcases List.mem_cons.1 named with rfl | tagged
    · exact Or.inl (Dictionary.mem_keys_iff.1 declared)
    · rw [tagsOf, found] at tagged
      have isValue : carried ∈ tags.values := Dictionary.mem_values_iff.2 ⟨node, found⟩
      exact Or.inr ⟨carried, isValue, List.contains_iff_mem.2 tagged⟩

theorem unknown_iff :
    tags.Unknown reference ↔
      isAny reference = false ∧ ∀ node ∈ tags.keys, tags.refersTo reference node = false := by
  apply and_congr_right
  intro restricts
  have noName (node : String) :
      tags.refersTo reference node = false ↔ reference ∉ tags.names node := by
    rw [← Bool.not_eq_true, refers_to_iff, restricts]
    simp
  rw [← Bool.not_eq_true, is_known_iff]
  simp only [noName, not_exists, not_and]

theorem exists_refers_to_of_known (known : ¬ tags.Unknown reference)
    (restricts : isAny reference = false) :
    ∃ node ∈ tags.keys, tags.refersTo reference node = true := by
  by_contra none
  apply known
  apply unknown_iff.2
  refine ⟨restricts, ?_⟩
  intro node declared
  apply Bool.eq_false_iff.2
  intro refers
  exact none ⟨node, declared, refers⟩

end TagMap

theorem Rule.refers_to_of_matches {rule : Rule} {tags : TagMap} {query : Query}
    (isMatched : rule.matches tags query = true) (side : TrafficEnd) :
    tags.refersTo (rule.reference side) (query.node side) = true := by
  simp only [Rule.matches, Bool.and_eq_true] at isMatched
  cases side with
  | source => exact isMatched.1.1.1
  | destination => exact isMatched.1.1.2

namespace Policy

variable {policy : Policy} {rule : Rule}

theorem message_mem_validate_iff (member : rule ∈ policy.rules) (tags : TagMap)
    (side : TrafficEnd) :
    side.message (rule.reference side) ∈ (policy.validate tags).errors ↔
      tags.Unknown (rule.reference side) := by
  rw [mem_validate_errors_iff]
  constructor
  · rintro ⟨other, _, wrong⟩
    exact (Rule.wrong_reference_iff.1 wrong).2
  · intro unknown
    exact ⟨rule, member, .reference side unknown⟩

/-- The reference of a rule at either end is reported if and only if it is not the wildcard and
means no declared node. A rule matches no traffic with a declared node at an end whose reference is
reported, and a reference that is not reported means some declared node, if it is not the wildcard.
-/
theorem references_judged_as_used (member : rule ∈ policy.rules) (tags : TagMap)
    (side : TrafficEnd) :
    (side.message (rule.reference side) ∈ (policy.validate tags).errors ↔
      isAny (rule.reference side) = false ∧
        ∀ node ∈ tags.keys, tags.refersTo (rule.reference side) node = false) ∧
    (side.message (rule.reference side) ∈ (policy.validate tags).errors →
      ∀ query : Query, query.node side ∈ tags.keys → rule.matches tags query = false) ∧
    (side.message (rule.reference side) ∉ (policy.validate tags).errors →
      isAny (rule.reference side) = false →
        ∃ node ∈ tags.keys, tags.refersTo (rule.reference side) node = true) := by
  rw [message_mem_validate_iff member]
  refine ⟨TagMap.unknown_iff, ?_, TagMap.exists_refers_to_of_known⟩
  intro unknown query declared
  apply Bool.eq_false_iff.2
  intro isMatched
  have refers := Rule.refers_to_of_matches isMatched side
  rw [(TagMap.unknown_iff.1 unknown).2 _ declared] at refers
  cases refers

theorem references_judged_as_used_guest :
    let tags : TagMap := .ofList [("laptop", ["Any", "users"]), ("web", ["dmz"])]
    let rule := Rule.plain .deny "users" "LAPTOP"
    let policy : Policy := ⟨[rule, .plain .allow "ANY" "web"], []⟩
    rule ∈ policy.rules ∧
      "Invalid source reference: users" ∉ (policy.validate tags).errors ∧
      (∃ node ∈ tags.keys, tags.refersTo "users" node = true) ∧
      "Invalid destination reference: LAPTOP" ∈ (policy.validate tags).errors ∧
      ∀ query : Query, query.destination ∈ tags.keys → rule.matches tags query = false := by
  intro tags rule policy
  have member : rule ∈ policy.rules := List.mem_cons_self
  have known : "Invalid source reference: users" ∉ (policy.validate tags).errors := by
    decide +kernel
  have reported : "Invalid destination reference: LAPTOP" ∈ (policy.validate tags).errors := by
    decide +kernel
  obtain ⟨_, _, means⟩ := references_judged_as_used member tags .source
  obtain ⟨_, misses, _⟩ := references_judged_as_used member tags .destination
  exact ⟨member, known, means known (by decide), reported, misses reported⟩

end Policy

end NetworkTwin
