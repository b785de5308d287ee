import Mathlib.Data.Set.Basic
import Mathlib.Logic.Relation
import NetworkTwin.Proofs.Policy.FirstMatch

/-!
Changes that a policy may be given without letting anything else in or keeping anything else out.
The order of rules matters, but not that of two neighbours with one action; a rule that is about the
same traffic as a rule before it is never reached, whatever the two do with the traffic; and rules at
the end that deny do what is done without them.
-/

namespace NetworkTwin

namespace Rule

/-- Whether two rules are about the same traffic: they agree on all that a query is held against, where
names of protocols agree in any case of their letters, and wildcards with no name at all. -/
structure SameScope (rule other : Rule) : Prop where
  source : rule.source = other.source
  destination : rule.destination = other.destination
  protocol : (rule.coversAllProtocols = true ∧ other.coversAllProtocols = true) ∨
    ∃ name ∈ rule.protocol, ∃ same ∈ other.protocol, Text.sameIgnoringCase name same = true
  port : rule.port = other.port

theorem SameScope.covers_protocol {rule other : Rule} (scope : rule.SameScope other)
    (used? : Option String) : rule.coversProtocol used? = other.coversProtocol used? := by
  rcases scope.protocol with ⟨all, otherAll⟩ | ⟨name, named, same, otherNamed, sameName⟩
  · unfold coversProtocol
    rw [all, otherAll, Bool.true_or, Bool.true_or]
  · have congr := Text.same_ignoring_case_congr sameName
    rw [Option.mem_def] at named otherNamed
    cases used? with
    | none => simp [coversProtocol, coversAllProtocols, named, otherNamed, isAny, congr]
    | some used => simp [coversProtocol, coversAllProtocols, named, otherNamed, isAny, congr]

theorem SameScope.matches_eq {rule other : Rule} (scope : rule.SameScope other) (tags : TagMap)
    (query : Query) : rule.matches tags query = other.matches tags query := by
  have port : rule.coversPort query.port = other.coversPort query.port := by
    unfold coversPort
    rw [scope.port]
  rw [Rule.matches, Rule.matches, scope.source, scope.destination, scope.covers_protocol, port]

end Rule

namespace Policy

/-- One change of a list of rules. -/
inductive Rewrite : List Rule → List Rule → Prop
  | swap {before after : List Rule} {first second : Rule} (same : first.action = second.action) :
      Rewrite (before ++ first :: second :: after) (before ++ second :: first :: after)
  | dropRepeated {before after : List Rule} {rule : Rule}
      (repeated : ∃ earlier ∈ before, rule.SameScope earlier) :
      Rewrite (before ++ rule :: after) (before ++ after)
  | dropDenials {before denials : List Rule} (deny : ∀ rule ∈ denials, rule.action = .deny) :
      Rewrite (before ++ denials) before

def allowedContexts (policy : Policy) : Set (TagMap × Query) :=
  {context | (policy.evaluate context.1 context.2).allowed = true}

/-- Whether the first rule that matches allows a query. -/
def lets (rules : List Rule) (tags : TagMap) (query : Query) : Bool :=
  (Decision.by? (decider? rules tags query)).allowed

variable {before after others : List Rule} {tags : TagMap} {query : Query}

theorem lets_append_congr (same : lets after tags query = lets others tags query) :
    lets (before ++ after) tags query = lets (before ++ others) tags query := by
  unfold lets at same ⊢
  rw [decider_append, decider_append]
  cases decider? before tags query with
  | none => simpa using same
  | some first => rfl

theorem lets_swap {first second : Rule} (same : first.action = second.action) :
    lets (first :: second :: after) tags query = lets (second :: first :: after) tags query := by
  have sameVerdict : (Decision.byRule first).allowed = (Decision.byRule second).allowed := by
    rw [Decision.byRule, Decision.byRule, same]
  unfold lets
  cases firstMatched : first.matches tags query with
  | false =>
      rw [decider_cons_of_not_matches firstMatched]
      cases secondMatched : second.matches tags query with
      | false =>
          rw [decider_cons_of_not_matches secondMatched, decider_cons_of_not_matches secondMatched,
            decider_cons_of_not_matches firstMatched]
      | true => rw [decider_cons_of_matches secondMatched, decider_cons_of_matches secondMatched]
  | true =>
      rw [decider_cons_of_matches firstMatched]
      cases secondMatched : second.matches tags query with
      | false =>
          rw [decider_cons_of_not_matches secondMatched, decider_cons_of_matches firstMatched]
      | true =>
          rw [decider_cons_of_matches secondMatched]
          exact sameVerdict

/-- A rule behind one about the same traffic is never the first to match. -/
theorem decider_drop_repeated {rule : Rule} (repeated : ∃ earlier ∈ before, rule.SameScope earlier) :
    decider? (before ++ rule :: after) tags query = decider? (before ++ after) tags query := by
  obtain ⟨earlier, member, scope⟩ := repeated
  cases matched : rule.matches tags query with
  | false => exact decider_drop_unmatched matched
  | true =>
      have decided : ∃ rule ∈ before, rule.matches tags query = true :=
        ⟨earlier, member, scope.matches_eq tags query ▸ matched⟩
      rw [decider_append_of_decided decided, decider_append_of_decided decided]

theorem lets_denials {denials : List Rule} (deny : ∀ rule ∈ denials, rule.action = .deny) :
    lets denials tags query = false := by
  unfold lets
  cases found : decider? denials tags query with
  | none => rfl
  | some rule =>
      have denies := deny rule (List.mem_of_find?_eq_some found)
      rw [Decision.by?, Decision.byRule, denies]
      rfl

theorem Rewrite.lets_eq {rules others : List Rule} (rewrite : Rewrite rules others) (tags : TagMap)
    (query : Query) : lets rules tags query = lets others tags query := by
  cases rewrite with
  | swap same => exact lets_append_congr (lets_swap same)
  | dropRepeated repeated => rw [lets, lets, decider_drop_repeated repeated]
  | @dropDenials _ denials deny =>
      have nothing : lets denials tags query = lets [] tags query := lets_denials deny
      rw [lets_append_congr nothing, List.append_nil]

theorem lets_of_rewrites {rules others : List Rule}
    (rewritten : Relation.EqvGen Rewrite rules others) (tags : TagMap) (query : Query) :
    lets rules tags query = lets others tags query := by
  induction rewritten with
  | rel _ _ rewrite => exact rewrite.lets_eq tags query
  | refl _ => rfl
  | symm _ _ _ induction => exact induction.symm
  | trans _ _ _ _ _ first second => exact first.trans second

/-- A policy that is changed any number of times, in either direction, allows the same contexts. -/
theorem safe_rewrites (policy : Policy) {rules : List Rule}
    (rewritten : Relation.EqvGen Rewrite policy.rules rules) :
    ({ policy with rules := rules } : Policy).allowedContexts = policy.allowedContexts := by
  ext context
  have same := lets_of_rewrites rewritten context.1 context.2
  change (evaluate _ context.1 context.2).allowed = true ↔
    (policy.evaluate context.1 context.2).allowed = true
  rw [evaluate_eq, evaluate_eq]
  exact Bool.eq_iff_iff.1 same.symm

theorem safe_rewrites_users :
    let web : Rule := { Rule.plain .allow "users" "web" with protocol := some "tcp" }
    let lan := Rule.plain .allow "lan" "web"
    let repeated : Rule := { Rule.plain .deny "users" "web" with protocol := some "TCP" }
    let rest := Rule.plain .deny "any" "any"
    Relation.EqvGen Rewrite [web, lan, repeated, rest] [lan, web] ∧
      (⟨[lan, web], []⟩ : Policy).allowedContexts =
        (⟨[web, lan, repeated, rest], []⟩ : Policy).allowedContexts := by
  intro web lan repeated rest
  have scope : repeated.SameScope web :=
    ⟨rfl, rfl, Or.inr ⟨"TCP", rfl, "tcp", rfl, by decide⟩, rfl⟩
  have first : Rewrite [web, lan, repeated, rest] [web, lan, repeated] :=
    @Rewrite.dropDenials [web, lan, repeated] [rest] (by simp [rest, Rule.plain])
  have second : Rewrite [web, lan, repeated] [web, lan] :=
    @Rewrite.dropRepeated [web, lan] [] repeated ⟨web, by simp, scope⟩
  have third : Rewrite [web, lan] [lan, web] := @Rewrite.swap [] [] web lan rfl
  have rewritten : Relation.EqvGen Rewrite [web, lan, repeated, rest] [lan, web] :=
    .trans _ _ _ (.rel _ _ first) (.trans _ _ _ (.rel _ _ second) (.rel _ _ third))
  exact ⟨rewritten, safe_rewrites ⟨[web, lan, repeated, rest], []⟩ rewritten⟩

end Policy

end NetworkTwin
