import NetworkTwin.Proofs.Policy.References

/-!
Rules that apply. A rule applies if some traffic between declared nodes matches it, which takes no
more than that each of its references means a declared node and that its filter lets some port pass:
for any protocol there is traffic that goes by it. The rules of a valid policy apply, with one
exception. A range of ports that starts above its end is well formed, so validation has nothing to
say of it, but no port lies within, and a rule with such a range matches nothing.
-/

namespace NetworkTwin

namespace PortFilter

theorem Spans.unique {token : String} {low high first last : UInt16}
    (spans : Spans token low high) (also : Spans token first last) : low = first ∧ high = last := by
  have read := bounds_of_spans spans
  rw [bounds_of_spans also] at read
  cases read
  exact ⟨rfl, rfl⟩

theorem exists_admits_of_spans {token : String} {low high : UInt16} (spans : Spans token low high)
    (forward : ¬ high < low) : ∃ port, (range token).admits port = true := by
  have ordered : low ≤ high := UInt16.not_lt.1 forward
  exact ⟨low, admits_range_iff.2 ⟨low, high, spans, UInt16.le_refl low, ordered⟩⟩

theorem not_admits_of_backward {token : String} {low high : UInt16} (spans : Spans token low high)
    (backward : high < low) (port : UInt16) : (range token).admits port = false := by
  apply Bool.eq_false_iff.2
  intro admitted
  obtain ⟨first, last, also, least, greatest⟩ := admits_range_iff.1 admitted
  obtain ⟨rfl, rfl⟩ := spans.unique also
  exact UInt16.not_le.2 backward (UInt16.le_trans least greatest)

end PortFilter

namespace Rule

variable {rule : Rule} {tags : TagMap}

/-- Whether some traffic between declared nodes matches a rule. -/
def Applies (rule : Rule) (tags : TagMap) : Prop :=
  ∃ query : Query, query.source ∈ tags.keys ∧ query.destination ∈ tags.keys ∧
    rule.matches tags query = true

/-- Whether a rule is for a range of ports that starts above its end. -/
def RunsBackward (rule : Rule) : Prop :=
  ∃ token low high, rule.port = some (.range token) ∧ PortFilter.Spans token low high ∧ high < low

theorem applies_iff :
    rule.Applies tags ↔
      (∀ side, ∃ node ∈ tags.keys, tags.refersTo (rule.reference side) node = true) ∧
        ∀ filter, rule.port = some filter → ∃ port, filter.admits port = true := by
  constructor
  · rintro ⟨query, fromDeclared, toDeclared, isMatched⟩
    constructor
    · intro side
      have refers := refers_to_of_matches isMatched side
      cases side with
      | source => exact ⟨query.source, fromDeclared, refers⟩
      | destination => exact ⟨query.destination, toDeclared, refers⟩
    · intro filter restricts
      obtain ⟨_, _, _, ports⟩ := matches_eq_true_iff.1 isMatched
      obtain ⟨port, _, admitted⟩ := ports filter restricts
      exact ⟨port, admitted⟩
  · rintro ⟨means, admits⟩
    obtain ⟨source, fromDeclared, refersSource⟩ := means .source
    obtain ⟨destination, toDeclared, refersDestination⟩ := means .destination
    have passes : ∃ port?, ∀ filter, rule.port = some filter →
        ∃ port, port? = some port ∧ filter.admits port = true := by
      cases restricts : rule.port with
      | none => exact ⟨none, by simp⟩
      | some filter =>
          obtain ⟨port, admitted⟩ := admits filter restricts
          refine ⟨some port, ?_⟩
          intro other same
          cases same
          exact ⟨port, rfl, admitted⟩
    obtain ⟨port?, passes⟩ := passes
    -- The traffic names its protocol just as the rule does.
    let query : Query := ⟨source, destination, rule.protocol, port?⟩
    have goes : ∀ wanted, rule.protocol = some wanted →
        isAny wanted = true ∨ query.GoesBy wanted := by
      intro wanted named
      apply Or.inr
      apply Query.goes_by_iff.2
      simp [query, named]
    have isMatched : rule.matches tags query = true :=
      matches_eq_true_iff.2
        ⟨TagMap.refers_to_iff.1 refersSource, TagMap.refers_to_iff.1 refersDestination, goes,
          passes⟩
    exact ⟨query, fromDeclared, toDeclared, isMatched⟩

theorem not_matches_of_runs_backward (backward : rule.RunsBackward) (tags : TagMap)
    (query : Query) : rule.matches tags query = false := by
  obtain ⟨token, low, high, restricts, spans, below⟩ := backward
  apply Bool.eq_false_iff.2
  intro isMatched
  obtain ⟨_, _, _, ports⟩ := matches_eq_true_iff.1 isMatched
  obtain ⟨port, _, admitted⟩ := ports _ restricts
  rw [PortFilter.not_admits_of_backward spans below] at admitted
  cases admitted

section Right

variable (right : ∀ message, ¬ rule.Wrong tags message)

include right

theorem exists_refers_to_of_right (declares : tags.keys ≠ []) (side : TrafficEnd) :
    ∃ node ∈ tags.keys, tags.refersTo (rule.reference side) node = true := by
  have known : ¬ tags.Unknown (rule.reference side) := by
    intro unknown
    exact right _ (.reference side unknown)
  cases wildcard : isAny (rule.reference side) with
  | false => exact TagMap.exists_refers_to_of_known known wildcard
  | true =>
      obtain ⟨node, declared⟩ := List.exists_mem_of_ne_nil _ declares
      exact ⟨node, declared, TagMap.refers_to_iff.2 (Or.inl wildcard)⟩

/-- A filter that nothing is said against lets some port pass, unless it is a range that runs
backward. -/
theorem exists_admits_of_right (forward : ¬ rule.RunsBackward) {filter : PortFilter}
    (restricts : rule.port = some filter) : ∃ port, filter.admits port = true := by
  cases filter with
  | number port => exact ⟨port, PortFilter.number_admits_iff.2 rfl⟩
  | range token =>
      rcases PortFilter.spans_or_mistaken token with ⟨low, high, spans⟩ | ⟨flaw, mistaken⟩
      · apply PortFilter.exists_admits_of_spans spans
        intro below
        exact forward ⟨token, low, high, restricts, spans, below⟩
      · exact absurd (.port restricts (PortFilter.bounds_of_mistaken mistaken)) (right _)

end Right

end Rule

namespace Policy

/-- Where a policy is valid and there are nodes at all, each rule applies, but for the rules with a
range of ports that starts above its end: those match no traffic whatever. -/
theorem validated_rules_apply_but_for_backward_ranges {policy : Policy} {tags : TagMap}
    (valid : (policy.validate tags).valid = true) (declares : tags.keys ≠ []) {rule : Rule}
    (member : rule ∈ policy.rules) :
    (¬ rule.RunsBackward → rule.Applies tags) ∧
    (rule.RunsBackward → ∀ others query, rule.matches others query = false) := by
  have right := validate_valid_iff.1 valid rule member
  constructor
  · intro forward
    apply Rule.applies_iff.2
    exact ⟨Rule.exists_refers_to_of_right right declares,
      fun filter restricts => Rule.exists_admits_of_right right forward restricts⟩
  · exact Rule.not_matches_of_runs_backward

theorem validated_rules_apply_but_for_backward_ranges_lan :
    let tags : TagMap := .ofList [("laptop", ["lan"]), ("web", [])]
    let rule : Rule :=
      { Rule.plain .allow "lan" "ANY" with protocol := some "gre", port := some (.range "80 - 80") }
    let policy : Policy := ⟨[rule, .plain .deny "any" "web"], []⟩
    (policy.validate tags).valid = true ∧ tags.keys ≠ [] ∧ rule ∈ policy.rules ∧
      ¬ rule.RunsBackward ∧ rule.Applies tags := by
  intro tags rule policy
  have valid : (policy.validate tags).valid = true := by decide +kernel
  have declares : tags.keys ≠ [] := by decide +kernel
  have member : rule ∈ policy.rules := List.mem_cons_self
  have forward : ¬ rule.RunsBackward := by
    rintro ⟨token, low, high, restricts, spans, below⟩
    cases restricts
    have read := PortFilter.bounds_of_spans spans
    have computed : (PortFilter.range "80 - 80").bounds = .ok (80, 80) := by decide
    rw [computed] at read
    cases read
    exact absurd below (by decide)
  obtain ⟨applies, _⟩ := validated_rules_apply_but_for_backward_ranges valid declares member
  exact ⟨valid, declares, member, forward, applies forward⟩

/-- A rule that is read from a line, passes validation and matches nothing. -/
theorem backward_range_passes_validation :
    let tags : TagMap := .ofList [("laptop", []), ("web", [])]
    let rule : Rule :=
      { Rule.plain .allow "laptop" "web" with
        protocol := some "tcp", port := some (.range "443-80") }
    let policy : Policy := ⟨[rule], []⟩
    (policy.validate tags).valid = true ∧ tags.keys ≠ [] ∧ ¬ rule.Applies tags := by
  intro tags rule policy
  have backward : rule.RunsBackward := by
    have computed : (PortFilter.range "443-80").bounds = .ok (443, 80) := by decide
    exact ⟨"443-80", 443, 80, rfl, PortFilter.bounds_eq_ok_iff.1 computed, by decide⟩
  refine ⟨by decide +kernel, by decide +kernel, ?_⟩
  rintro ⟨query, _, _, isMatched⟩
  rw [Rule.not_matches_of_runs_backward backward] at isMatched
  cases isMatched

end Policy

end NetworkTwin
