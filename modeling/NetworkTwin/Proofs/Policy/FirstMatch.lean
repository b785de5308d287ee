import NetworkTwin.Policy.Evaluation

/-!
The rule that decides. A query is up to the first rule that matches it, so what stands after that rule
is never reached, and a rule that does not match is as good as none. A rule that is put into a policy
decides the queries that it matches and that no rule before it does, and leaves every other decision
as it is: one more rule that allows takes nothing away, and one that denies lets nothing in.
-/

namespace NetworkTwin

/-- The decision where a rule is the first that matches, or none does. -/
def Decision.by? : Option Rule → Decision
  | some rule => .byRule rule
  | none => .defaultDeny

namespace Policy

def decider? (rules : List Rule) (tags : TagMap) (query : Query) : Option Rule :=
  rules.find? fun rule => rule.matches tags query

section Decider

variable {rules before after : List Rule} {rule : Rule} {tags : TagMap} {query : Query}

theorem evaluate_eq (policy : Policy) (tags : TagMap) (query : Query) :
    policy.evaluate tags query = .by? (decider? policy.rules tags query) := by
  unfold evaluate decider?
  cases policy.rules.find? fun rule => rule.matches tags query <;> rfl

theorem matched_rule_is_some_iff {policy : Policy} :
    (policy.evaluate tags query).matchedRule.isSome = true ↔
      ∃ rule ∈ policy.rules, rule.matches tags query = true := by
  rw [← List.find?_isSome, evaluate]
  cases policy.rules.find? fun rule => rule.matches tags query <;> rfl

theorem decider_append :
    decider? (before ++ after) tags query =
      (decider? before tags query).or (decider? after tags query) :=
  List.find?_append

theorem decider_cons_of_matches (isMatched : rule.matches tags query = true) :
    decider? (rule :: rules) tags query = some rule :=
  List.find?_cons_of_pos isMatched

theorem decider_cons_of_not_matches (unmatched : rule.matches tags query = false) :
    decider? (rule :: rules) tags query = decider? rules tags query := by
  apply List.find?_cons_of_neg
  simp [unmatched]

theorem decider_eq_none_iff :
    decider? rules tags query = none ↔ ∀ rule ∈ rules, rule.matches tags query = false := by
  simp [decider?]

theorem decider_append_of_decided (decided : ∃ rule ∈ before, rule.matches tags query = true) :
    decider? (before ++ after) tags query = decider? before tags query := by
  have found : (decider? before tags query).isSome = true := List.find?_isSome.2 decided
  obtain ⟨first, isFirst⟩ := Option.isSome_iff_exists.1 found
  rw [decider_append, isFirst, Option.some_or]

theorem decider_drop_unmatched (unmatched : rule.matches tags query = false) :
    decider? (before ++ rule :: after) tags query = decider? (before ++ after) tags query := by
  rw [decider_append, decider_append, decider_cons_of_not_matches unmatched]

theorem decider_of_reached (passed : ∀ earlier ∈ before, earlier.matches tags query = false)
    (isMatched : rule.matches tags query = true) :
    decider? (before ++ rule :: after) tags query = some rule := by
  rw [decider_append, decider_eq_none_iff.2 passed, Option.none_or,
    decider_cons_of_matches isMatched]

end Decider

def insert (policy : Policy) (place : Nat) (rule : Rule) : Policy :=
  { policy with rules := policy.rules.take place ++ rule :: policy.rules.drop place }

variable {policy : Policy} {place : Nat} {rule : Rule} {tags : TagMap} {query : Query}

theorem evaluate_insert_unmatched (unmatched : rule.matches tags query = false) :
    (policy.insert place rule).evaluate tags query = policy.evaluate tags query := by
  rw [evaluate_eq, evaluate_eq, insert, decider_drop_unmatched unmatched, List.take_append_drop]

theorem evaluate_insert_unreached
    (decided : ∃ earlier ∈ policy.rules.take place, earlier.matches tags query = true) :
    (policy.insert place rule).evaluate tags query = policy.evaluate tags query := by
  have split : decider? policy.rules tags query =
      decider? (policy.rules.take place ++ policy.rules.drop place) tags query := by
    rw [List.take_append_drop]
  rw [evaluate_eq, evaluate_eq, split, insert, decider_append_of_decided decided,
    decider_append_of_decided decided]

theorem evaluate_insert_reached
    (passed : ∀ earlier ∈ policy.rules.take place, earlier.matches tags query = false)
    (isMatched : rule.matches tags query = true) :
    (policy.insert place rule).evaluate tags query = .byRule rule := by
  rw [evaluate_eq, insert, decider_of_reached passed isMatched]
  rfl

/-- A rule that is put in decides the query itself or leaves the decision as it is. -/
theorem evaluate_insert_cases :
    (policy.insert place rule).evaluate tags query = policy.evaluate tags query ∨
      (policy.insert place rule).evaluate tags query = .byRule rule := by
  cases matched : rule.matches tags query with
  | false => exact Or.inl (evaluate_insert_unmatched matched)
  | true =>
      by_cases decided : ∃ earlier ∈ policy.rules.take place, earlier.matches tags query = true
      · exact Or.inl (evaluate_insert_unreached decided)
      · have passed : ∀ earlier ∈ policy.rules.take place,
            earlier.matches tags query = false := by
          simpa using decided
        exact Or.inr (evaluate_insert_reached passed matched)

/-- A rule that is put into a policy at any place turns no decision against its own action: if it
allows, what was allowed stays so, and if it denies, what was denied stays so. It changes nothing
where it does not match or a rule before it does, and decides where neither is the case. -/
theorem insertion_monotone (policy : Policy) (place : Nat) (rule : Rule) (tags : TagMap)
    (query : Query) :
    (rule.action = .allow → (policy.evaluate tags query).allowed = true →
      ((policy.insert place rule).evaluate tags query).allowed = true) ∧
    (rule.action = .deny → (policy.evaluate tags query).allowed = false →
      ((policy.insert place rule).evaluate tags query).allowed = false) ∧
    (rule.matches tags query = false →
      (policy.insert place rule).evaluate tags query = policy.evaluate tags query) ∧
    ((∃ earlier ∈ policy.rules.take place, earlier.matches tags query = true) →
      (policy.insert place rule).evaluate tags query = policy.evaluate tags query) ∧
    (rule.matches tags query = true →
      (∀ earlier ∈ policy.rules.take place, earlier.matches tags query = false) →
      (policy.insert place rule).evaluate tags query = .byRule rule) := by
  have byRule : (Decision.byRule rule).allowed = (rule.action == .allow) := rfl
  refine ⟨?_, ?_, evaluate_insert_unmatched, evaluate_insert_unreached, ?_⟩
  · intro allows allowed
    rcases evaluate_insert_cases with same | decides
    · rw [same, allowed]
    · rw [decides, byRule, allows]
      rfl
  · intro denies denied
    rcases evaluate_insert_cases with same | decides
    · rw [same, denied]
    · rw [decides, byRule, denies]
      rfl
  · intro isMatched passed
    exact evaluate_insert_reached passed isMatched

theorem insertion_monotone_laptop :
    let policy : Policy :=
      ⟨[.plain .deny "guest" "web", (Rule.plain .allow "any" "web").withPort (.number 443)], []⟩
    let rule := Rule.plain .allow "laptop" "any"
    let query : Query := ⟨"laptop", "web", some "tcp", some 443⟩
    rule.action = .allow ∧ (policy.evaluate .empty query).allowed = true ∧
      ((policy.insert 1 rule).evaluate .empty query).allowed = true ∧
      rule.matches .empty query = true ∧
      (∀ earlier ∈ policy.rules.take 1, earlier.matches .empty query = false) ∧
      (policy.insert 1 rule).evaluate .empty query = .byRule rule := by
  intro policy rule query
  have allowed : (policy.evaluate .empty query).allowed = true := by decide +kernel
  have isMatched : rule.matches .empty query = true := by decide +kernel
  have passed : ∀ earlier ∈ policy.rules.take 1, earlier.matches .empty query = false := by
    decide +kernel
  obtain ⟨keeps, _, _, _, decides⟩ := insertion_monotone policy 1 rule .empty query
  exact ⟨rfl, allowed, keeps rfl allowed, isMatched, passed, decides isMatched passed⟩

end Policy

end NetworkTwin
