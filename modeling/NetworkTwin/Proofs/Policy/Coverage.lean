import NetworkTwin.Proofs.Policy.FirstMatch

/-!
What a policy covers. A rule that is written as a catch-all matches every query, and no set of
narrower rules does so together: a node that no reference names, without tags, and a query that says
nothing of protocol and port are out of reach of all of them. So the default deny is out of reach if
and only if some rule is a catch-all, and the rules after the first catch-all decide nothing.
-/

namespace NetworkTwin

/-- A text that is longer than each of the words. -/
def longerThanAll : List String → String
  | [] => "."
  | word :: rest => word ++ longerThanAll rest

theorem length_lt_longer_than_all {word : String} {words : List String} (member : word ∈ words) :
    word.length < (longerThanAll words).length := by
  have positive (words : List String) : 0 < (longerThanAll words).length := by
    induction words with
    | nil => decide
    | cons word rest induction =>
        rw [longerThanAll, String.length_append]
        omega
  induction words with
  | nil => cases member
  | cons first rest induction =>
      rw [longerThanAll, String.length_append]
      rcases List.mem_cons.1 member with same | later
      · have more := positive rest
        rw [same]
        omega
      · have shorter := induction later
        omega

theorem Rule.matches_of_catch_all {rule : Rule} (catchAll : rule.isCatchAll = true) (tags : TagMap)
    (query : Query) : rule.matches tags query = true := by
  simp only [isCatchAll, Bool.and_eq_true, Option.isNone_iff_eq_none] at catchAll
  obtain ⟨⟨⟨anySource, anyDestination⟩, anyProtocol⟩, noPort⟩ := catchAll
  simp [Rule.matches, TagMap.refersTo, coversProtocol, coversPort, anySource, anyDestination,
    anyProtocol, noPort]

def Query.bare (node : String) : Query := ⟨node, node, none, none⟩

/-- A node without tags that the rule does not name is matched by the wildcard or not at all. -/
theorem Rule.catch_all_of_matches_bare {rule : Rule} {node : String}
    (otherSource : rule.source ≠ node) (otherDestination : rule.destination ≠ node)
    (isMatched : rule.matches .empty (.bare node) = true) : rule.isCatchAll = true := by
  cases port : rule.port <;>
    simp_all [Rule.matches, TagMap.refersTo, Query.bare, coversProtocol, coversPort, isCatchAll]

namespace Policy

variable {policy : Policy} {tags : TagMap} {query : Query}

def references (policy : Policy) : List String :=
  policy.rules.flatMap fun rule => [rule.source, rule.destination]

theorem evaluate_eq_default_deny_iff :
    policy.evaluate tags query = .defaultDeny ↔
      (policy.evaluate tags query).matchedRule.isSome = false := by
  unfold evaluate
  cases policy.rules.find? fun rule => rule.matches tags query with
  | none => simp [Decision.defaultDeny]
  | some rule => simp [Decision.byRule, Decision.defaultDeny]

/-- A node that no rule names. -/
def stranger (policy : Policy) : String := longerThanAll policy.references

theorem ne_stranger {rule : Rule} (member : rule ∈ policy.rules) :
    rule.source ≠ policy.stranger ∧ rule.destination ≠ policy.stranger := by
  have differs (reference : String) (named : reference ∈ [rule.source, rule.destination]) :
      reference ≠ policy.stranger := by
    intro same
    have mentioned : reference ∈ policy.references := List.mem_flatMap.2 ⟨rule, member, named⟩
    have shorter := length_lt_longer_than_all mentioned
    change reference.length < policy.stranger.length at shorter
    rw [← same] at shorter
    exact Nat.lt_irrefl _ shorter
  exact ⟨differs _ (by simp), differs _ (by simp)⟩

theorem has_catch_all_of_covers
    (covers : ∀ tags query, (policy.evaluate tags query).matchedRule.isSome = true) :
    policy.hasCatchAll = true := by
  obtain ⟨rule, member, isMatched⟩ :=
    matched_rule_is_some_iff.1 (covers .empty (.bare policy.stranger))
  have unnamed := ne_stranger member
  apply List.any_eq_true.2
  exact ⟨rule, member, Rule.catch_all_of_matches_bare unnamed.1 unnamed.2 isMatched⟩

theorem covers_of_has_catch_all (catchAll : policy.hasCatchAll = true) :
    (policy.evaluate tags query).matchedRule.isSome = true := by
  obtain ⟨rule, member, isCatchAll⟩ := List.any_eq_true.1 catchAll
  exact matched_rule_is_some_iff.2 ⟨rule, member, Rule.matches_of_catch_all isCatchAll tags query⟩

/-- The policy without the rules that come after its first catch-all. -/
def throughCatchAll (policy : Policy) : Policy :=
  { policy with rules := policy.rules.take (policy.rules.findIdx Rule.isCatchAll + 1) }

/-- Searching for what a first hit is sure to be need not go beyond that hit. -/
theorem find_take_find_idx {α : Type} {sure wanted : α → Bool}
    (implies : ∀ item, sure item = true → wanted item = true) (items : List α) :
    (items.take (items.findIdx sure + 1)).find? wanted = items.find? wanted := by
  induction items with
  | nil => rfl
  | cons item rest induction =>
      rw [List.take_succ_cons, List.find?_cons, List.find?_cons, List.findIdx_cons]
      cases isSure : sure item with
      | true => rw [implies item isSure]
      | false =>
          rw [cond_false, induction]

/-- The default deny is out of reach if and only if the policy has a catch-all rule, and the rules
after the first catch-all decide no query. -/
theorem has_catch_all_exact (policy : Policy) :
    (policy.hasCatchAll = true ↔
      ∀ tags query, (policy.evaluate tags query).matchedRule.isSome = true) ∧
    (policy.hasCatchAll = true ↔ ∀ tags query, policy.evaluate tags query ≠ .defaultDeny) ∧
    ∀ tags query, policy.throughCatchAll.evaluate tags query = policy.evaluate tags query := by
  have covers : policy.hasCatchAll = true ↔
      ∀ tags query, (policy.evaluate tags query).matchedRule.isSome = true :=
    ⟨fun catchAll _ _ => covers_of_has_catch_all catchAll, has_catch_all_of_covers⟩
  refine ⟨covers, ?_, ?_⟩
  · rw [covers]
    simp only [ne_eq, evaluate_eq_default_deny_iff, Bool.not_eq_false]
  · intro tags query
    have sure (rule : Rule) (isCatchAll : rule.isCatchAll = true) :
        rule.matches tags query = true := Rule.matches_of_catch_all isCatchAll tags query
    rw [evaluate, evaluate, throughCatchAll, find_take_find_idx sure]

end Policy

end NetworkTwin
