import NetworkTwin.Proofs.Policy.FirstMatch
import NetworkTwin.Proofs.Policy.Matching

/-!
What decisions depend on. Of a query and the tags around it rules can tell what its two ends are
called, which names its protocol goes by, and its port. Contexts that agree on these are decided alike
by every policy, and contexts that differ in one of them are told apart by a policy of one rule. So
the tags of other nodes, the order of tags and how often one is repeated never matter, nor does the
case of the letters of a protocol.
-/

namespace NetworkTwin

/-- Whether two contexts have the same ends, port and protocol, in any case of its letters, and each
end carries the same tags in both. -/
structure AgreeAtEnds (tags others : TagMap) (query other : Query) : Prop where
  source : query.source = other.source
  destination : query.destination = other.destination
  protocol : query.protocol.map Text.lowerAsciiText = other.protocol.map Text.lowerAsciiText
  port : query.port = other.port
  sourceTags : ∀ tag, tag ∈ tags.tagsOf query.source ↔ tag ∈ others.tagsOf other.source
  destinationTags :
    ∀ tag, tag ∈ tags.tagsOf query.destination ↔ tag ∈ others.tagsOf other.destination

/-- Whether two nodes are called the same under two maps of tags, apart from the wildcard. -/
def CalledAlike (tags others : TagMap) (node other : String) : Prop :=
  ∀ reference, isAny reference = false →
    (reference ∈ tags.names node ↔ reference ∈ others.names other)

/-- Whether two contexts agree on all that a rule can tell of them. -/
structure ToldAlike (tags others : TagMap) (query other : Query) : Prop where
  source : CalledAlike tags others query.source other.source
  destination : CalledAlike tags others query.destination other.destination
  protocol : ∀ name, isAny name = false → (query.GoesBy name ↔ other.GoesBy name)
  port : query.port = other.port

variable {tags others : TagMap} {query other : Query}

theorem AgreeAtEnds.told_alike (agree : AgreeAtEnds tags others query other) :
    ToldAlike tags others query other where
  source reference _ := by
    simp only [TagMap.names, List.mem_cons, agree.source, ← agree.sourceTags]
  destination reference _ := by
    simp only [TagMap.names, List.mem_cons, agree.destination, ← agree.destinationTags]
  protocol name _ := by
    rw [Query.goes_by_iff, Query.goes_by_iff, agree.protocol]
  port := agree.port

theorem any_or_iff {word : String} {left right : Prop}
    (same : isAny word = false → (left ↔ right)) :
    (isAny word = true ∨ left) ↔ (isAny word = true ∨ right) := by
  cases wildcard : isAny word with
  | false => simp [same wildcard]
  | true => simp

theorem ToldAlike.matches_eq (alike : ToldAlike tags others query other) (rule : Rule) :
    rule.matches tags query = rule.matches others other := by
  have protocol (wanted : String) := any_or_iff (alike.protocol wanted)
  rw [Bool.eq_iff_iff, Rule.matches_eq_true_iff, Rule.matches_eq_true_iff,
    any_or_iff (alike.source rule.source), any_or_iff (alike.destination rule.destination),
    alike.port]
  simp only [protocol]

theorem is_any_any : isAny "any" = true := by decide

/-- Two contexts are told alike if no rule tells them apart. -/
theorem ToldAlike.of_matches_eq
    (same : ∀ rule : Rule, rule.matches tags query = rule.matches others other) :
    ToldAlike tags others query other := by
  have told (rule : Rule) :
      rule.matches tags query = true ↔ rule.matches others other = true := by
    rw [same rule]
  simp only [Rule.matches_eq_true_iff] at told
  constructor
  · intro reference restricts
    simpa [Rule.plain, restricts, is_any_any] using told (.plain .allow reference "any")
  · intro reference restricts
    simpa [Rule.plain, restricts, is_any_any] using told (.plain .allow "any" reference)
  · intro name restricts
    simpa [Rule.plain, restricts, is_any_any] using
      told { Rule.plain .allow "any" "any" with protocol := some name }
  · apply Option.ext
    intro port
    simpa [Rule.plain, Rule.withPort, PortFilter.number_admits_iff, is_any_any] using
      told ((Rule.plain .allow "any" "any").withPort (.number port))

namespace Policy

theorem decided_alike_iff :
    (∀ policy : Policy, policy.evaluate tags query = policy.evaluate others other) ↔
      ToldAlike tags others query other := by
  constructor
  · intro same
    apply ToldAlike.of_matches_eq
    intro rule
    have single := congrArg (fun decision => decision.matchedRule.isSome) (same ⟨[rule], []⟩)
    rw [Bool.eq_iff_iff, matched_rule_is_some_iff, matched_rule_is_some_iff] at single
    rw [Bool.eq_iff_iff]
    simpa using single
  · intro alike policy
    have sameRules : (fun rule : Rule => rule.matches tags query) =
        fun rule => rule.matches others other := funext alike.matches_eq
    rw [evaluate_eq, evaluate_eq, decider?, decider?, sameRules]

/-- Contexts that agree at their ends are decided alike by every policy. -/
theorem decisions_local (policy : Policy) (agree : AgreeAtEnds tags others query other) :
    policy.evaluate tags query = policy.evaluate others other :=
  decided_alike_iff.2 agree.told_alike policy

theorem decisions_local_laptop :
    let tags : TagMap := .ofList [("laptop", ["users", "staff", "users"]), ("web", []), ("tv", ["lan"])]
    let others : TagMap := .ofList [("laptop", ["staff", "users"]), ("tv", ["users"])]
    let query : Query := ⟨"laptop", "web", some "TCP", some 443⟩
    let other : Query := ⟨"laptop", "web", some "tcp", some 443⟩
    let policy : Policy := ⟨[{ Rule.plain .allow "users" "web" with protocol := some "Tcp" }], []⟩
    AgreeAtEnds tags others query other ∧
      policy.evaluate tags query = policy.evaluate others other ∧
      (policy.evaluate others other).allowed = true := by
  intro tags others query other policy
  have source : tags.tagsOf "laptop" = ["users", "staff", "users"] ∧
      others.tagsOf "laptop" = ["staff", "users"] := by decide +kernel
  have destination : tags.tagsOf "web" = [] ∧ others.tagsOf "web" = [] := by decide +kernel
  have agree : AgreeAtEnds tags others query other := by
    refine ⟨rfl, rfl, by decide +kernel, rfl, ?_, ?_⟩
    · intro tag
      change tag ∈ tags.tagsOf "laptop" ↔ tag ∈ others.tagsOf "laptop"
      rw [source.1, source.2]
      simp +contextual [or_comm]
    · intro tag
      change tag ∈ tags.tagsOf "web" ↔ tag ∈ others.tagsOf "web"
      rw [destination.1, destination.2]
  exact ⟨agree, decisions_local policy agree, by decide +kernel⟩

end Policy

end NetworkTwin
