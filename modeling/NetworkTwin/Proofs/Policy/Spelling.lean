import Mathlib.Data.List.Flatten
import NetworkTwin.Proofs.Policy.FirstMatch
import NetworkTwin.Proofs.Policy.Messages
import NetworkTwin.Proofs.Policy.Rendering

/-!
The case of the letters of protocols. It makes no difference to which rule decides, or to what
counts as a catch-all: a rule is as good as the rule with its protocol in lower case. Validation
makes one exception. It finds out restricted ports of ICMP by the name in lower case alone, and the
message is missing where a rule hides the protocol behind capitals. Rules that are read from a text
never do, since their protocols are in lower case; rules that come from elsewhere can.
-/

namespace NetworkTwin

namespace Rule

def lowered (rule : Rule) : Rule :=
  { rule with protocol := rule.protocol.map Text.lowerAsciiText }

/-- Whether a rule restricts the ports of ICMP and has capitals in the name of the protocol. -/
def HidesIcmp (rule : Rule) : Prop :=
  rule.port.isSome = true ∧ rule.lowered.protocol = some "icmp" ∧ rule.protocol ≠ some "icmp"

instance (rule : Rule) : Decidable rule.HidesIcmp :=
  inferInstanceAs (Decidable (_ ∧ _ ∧ _))

theorem covers_all_protocols_lowered (rule : Rule) :
    rule.lowered.coversAllProtocols = rule.coversAllProtocols := by
  unfold coversAllProtocols lowered
  cases rule.protocol with
  | none => rfl
  | some name => exact (Text.same_ignoring_case_congr (Text.same_ignoring_case_lowered name) _).1

theorem covers_protocol_lowered (rule : Rule) (protocol? : Option String) :
    rule.lowered.coversProtocol protocol? = rule.coversProtocol protocol? := by
  unfold coversProtocol
  rw [covers_all_protocols_lowered, lowered]
  cases rule.protocol with
  | none => rfl
  | some name =>
      cases protocol? with
      | none => rfl
      | some used =>
          have same := Text.same_ignoring_case_lowered name
          exact congrArg _ (Text.same_ignoring_case_congr same used).2

theorem matches_lowered (rule : Rule) (tags : TagMap) (query : Query) :
    rule.lowered.matches tags query = rule.matches tags query := by
  rw [Rule.matches, Rule.matches, covers_protocol_lowered]
  rfl

theorem is_catch_all_lowered (rule : Rule) : rule.lowered.isCatchAll = rule.isCatchAll := by
  rw [isCatchAll, isCatchAll, covers_all_protocols_lowered]
  rfl

theorem errors_eq (rule : Rule) (tags : TagMap) :
    rule.errors tags = rule.referenceErrors tags ++ (rule.icmpErrors ++ rule.filterErrors) := by
  rw [errors, port_errors_eq]

theorem icmp_errors_lowered (rule : Rule) :
    rule.icmpErrors.Sublist rule.lowered.icmpErrors ∧
      (rule.icmpErrors = rule.lowered.icmpErrors ↔ ¬ rule.HidesIcmp) := by
  have plain : rule.protocol = some "icmp" → rule.lowered.protocol = some "icmp" := by
    intro named
    have small : Text.lowerAsciiText "icmp" = "icmp" := by decide
    change rule.protocol.map Text.lowerAsciiText = some "icmp"
    rw [named, Option.map_some, small]
  have samePort : rule.lowered.port = rule.port := rfl
  unfold icmpErrors HidesIcmp
  rw [samePort]
  by_cases restricts : rule.port.isSome = true
  · by_cases named : rule.protocol = some "icmp"
    · simp [restricts, named, plain named]
    · by_cases spelled : rule.lowered.protocol = some "icmp"
      · simp [restricts, named, spelled]
      · simp [restricts, named, spelled]
  · simp [restricts]

/-- In lower case a rule is found fault with for at least the same, and for no more unless it hides
ICMP. -/
theorem errors_lowered (rule : Rule) (tags : TagMap) :
    (rule.errors tags).Sublist (rule.lowered.errors tags) ∧
      (rule.errors tags = rule.lowered.errors tags ↔ ¬ rule.HidesIcmp) := by
  obtain ⟨fewer, same⟩ := rule.icmp_errors_lowered
  have sameReferences : rule.lowered.referenceErrors tags = rule.referenceErrors tags := rfl
  have sameFilter : rule.lowered.filterErrors = rule.filterErrors := rfl
  rw [errors_eq, errors_eq, sameReferences, sameFilter, List.append_cancel_left_eq,
    List.append_cancel_right_eq]
  exact ⟨(fewer.append_right _).append_left _, same⟩

/-- Whether a message is about something else than the ports of ICMP. -/
def besideIcmp (message : String) : Bool := message != icmpMessage

theorem errors_beside_icmp_lowered (rule : Rule) (tags : TagMap) :
    (rule.lowered.errors tags).filter besideIcmp = (rule.errors tags).filter besideIcmp := by
  have none (other : Rule) : other.icmpErrors.filter besideIcmp = [] := by
    unfold icmpErrors
    split <;> decide
  rw [errors_eq, errors_eq, List.filter_append, List.filter_append, List.filter_append,
    List.filter_append, none, none]
  rfl

end Rule

/-- Where one list is made of no more than another, item by item, the two are the same only if they
are for each item. -/
theorem flat_map_eq_iff_of_sublist {α β : Type} {fewer more : α → List β}
    (within : ∀ item, (fewer item).Sublist (more item)) {items : List α} :
    items.flatMap fewer = items.flatMap more ↔ ∀ item ∈ items, fewer item = more item := by
  induction items with
  | nil => simp
  | cons item rest induction =>
      have head := within item
      have tail := List.Sublist.flatMap_right rest fun other _ => within other
      rw [List.flatMap_cons, List.flatMap_cons, List.forall_mem_cons, ← induction]
      constructor
      · intro same
        have lengths := congrArg List.length same
        rw [List.length_append, List.length_append] at lengths
        have headLength := head.length_le
        have tailLength := tail.length_le
        exact ⟨head.eq_of_length (by omega), tail.eq_of_length (by omega)⟩
      · rintro ⟨sameHead, sameTail⟩
        rw [sameHead, sameTail]

namespace Policy

def lowered (policy : Policy) : Policy := ⟨policy.rules.map Rule.lowered, []⟩

/-- Whether two policies have the same rules but for the case of the letters of their protocols. -/
def SpelledAlike (policy other : Policy) : Prop :=
  policy.rules.map Rule.lowered = other.rules.map Rule.lowered

instance (policy other : Policy) : Decidable (policy.SpelledAlike other) :=
  inferInstanceAs (Decidable (_ = _))

theorem SpelledAlike.lowered_eq {policy other : Policy} (alike : policy.SpelledAlike other) :
    policy.lowered = other.lowered :=
  congrArg (Policy.mk · []) alike

/-- Whether some rule of a policy restricts the ports of ICMP behind capitals. -/
def HidesIcmp (policy : Policy) : Prop := ∃ rule ∈ policy.rules, rule.HidesIcmp

instance (policy : Policy) : Decidable policy.HidesIcmp :=
  inferInstanceAs (Decidable (∃ rule ∈ policy.rules, rule.HidesIcmp))

/-- The place of the rule that decides a query: as many rules stand before it. -/
def decidingPlace (policy : Policy) (tags : TagMap) (query : Query) : Nat :=
  policy.rules.findIdx fun rule => rule.matches tags query

section Lowered

variable (policy : Policy) (tags : TagMap) (query : Query)

theorem matched_rule_eq :
    (policy.evaluate tags query).matchedRule = policy.rules[policy.decidingPlace tags query]? := by
  rw [decidingPlace, ← List.find?_eq_getElem?_findIdx, evaluate]
  cases policy.rules.find? fun rule => rule.matches tags query <;> rfl

theorem deciding_place_lowered :
    policy.lowered.decidingPlace tags query = policy.decidingPlace tags query := by
  unfold decidingPlace lowered
  rw [List.findIdx_map]
  apply congrArg (List.findIdx · policy.rules)
  funext rule
  exact rule.matches_lowered tags query

theorem allowed_lowered :
    (policy.lowered.evaluate tags query).allowed = (policy.evaluate tags query).allowed := by
  have sameMatches : (fun rule : Rule => rule.matches tags query) ∘ Rule.lowered =
      fun rule => rule.matches tags query :=
    funext fun rule => rule.matches_lowered tags query
  rw [evaluate_eq, evaluate_eq, decider?, decider?, lowered, List.find?_map, sameMatches]
  cases policy.rules.find? fun rule => rule.matches tags query <;> rfl

theorem has_catch_all_lowered : policy.lowered.hasCatchAll = policy.hasCatchAll := by
  unfold hasCatchAll lowered
  rw [List.any_map]
  apply congrArg policy.rules.any
  funext rule
  exact rule.is_catch_all_lowered

theorem errors_beside_icmp_lowered :
    (policy.lowered.validate tags).errors.filter Rule.besideIcmp =
      (policy.validate tags).errors.filter Rule.besideIcmp := by
  simp only [validate, lowered, List.flatMap_map, List.filter_flatMap,
    Rule.errors_beside_icmp_lowered]

theorem errors_eq_errors_lowered_iff :
    (policy.validate tags).errors = (policy.lowered.validate tags).errors ↔ ¬ policy.HidesIcmp := by
  simp only [validate, lowered, List.flatMap_map]
  rw [flat_map_eq_iff_of_sublist fun rule => (rule.errors_lowered tags).1]
  simp only [(Rule.errors_lowered _ tags).2, HidesIcmp, not_exists, not_and]

end Lowered

theorem parse_hides_no_icmp (text : String) : ¬ (parse text).HidesIcmp := by
  rintro ⟨rule, member, _, spelled, capitals⟩
  have plain := plain_of_mem_parse member
  apply capitals
  obtain ⟨name, named, _⟩ := Option.map_eq_some_iff.1 spelled
  obtain ⟨small, keyword, isKeyword, spells⟩ := plain.protocol name named
  rw [Text.to_lower_of_spells spells (Rule.keyword_ascii keyword isKeyword)] at small
  have inSmall : (some name).map Text.lowerAsciiText = some "icmp" := by
    rw [← named]
    exact spelled
  rw [Option.map_some, small] at inSmall
  rw [named, inSmall]

variable {policy other : Policy}

/-- Policies that differ in the case of the letters of protocols decide alike, by the rule at the
same place, are catch-alls alike, and are found fault with alike but for the ports of ICMP. As to
those, what is said of a policy that hides no ICMP behind capitals is said of the other just if that
hides none. -/
theorem protocol_case_counts_for_icmp_alone (alike : policy.SpelledAlike other) (tags : TagMap)
    (query : Query) :
    (policy.evaluate tags query).allowed = (other.evaluate tags query).allowed ∧
    (policy.evaluate tags query).matchedRule = policy.rules[policy.decidingPlace tags query]? ∧
    (other.evaluate tags query).matchedRule = other.rules[policy.decidingPlace tags query]? ∧
    policy.decidingPlace tags query = other.decidingPlace tags query ∧
    policy.hasCatchAll = other.hasCatchAll ∧
    (policy.validate tags).errors.filter Rule.besideIcmp =
      (other.validate tags).errors.filter Rule.besideIcmp ∧
    (¬ other.HidesIcmp →
      ((policy.validate tags).errors = (other.validate tags).errors ↔ ¬ policy.HidesIcmp)) := by
  have same := alike.lowered_eq
  have samePlace : policy.decidingPlace tags query = other.decidingPlace tags query := by
    rw [← deciding_place_lowered policy, same, deciding_place_lowered]
  refine ⟨?_, matched_rule_eq policy tags query, ?_, samePlace, ?_, ?_, ?_⟩
  · rw [← allowed_lowered policy, same, allowed_lowered]
  · rw [samePlace]
    exact matched_rule_eq other tags query
  · rw [← has_catch_all_lowered policy, same, has_catch_all_lowered]
  · rw [← errors_beside_icmp_lowered policy, same, errors_beside_icmp_lowered]
  · intro hidesNone
    rw [(errors_eq_errors_lowered_iff other tags).2 hidesNone, ← same]
    exact errors_eq_errors_lowered_iff policy tags

theorem protocol_case_counts_for_icmp_alone_guest :
    let tags : TagMap := .ofList [("laptop", ["lan"]), ("web", [])]
    let query : Query := ⟨"laptop", "web", some "tcp", some 443⟩
    let ping := Rule.plain .deny "guest" "web"
    let https := (Rule.plain .allow "lan" "web").withPort (.number 443)
    let policy : Policy :=
      ⟨[{ ping with protocol := some "Icmp" }, { https with protocol := some "TCP" }], []⟩
    let other : Policy :=
      ⟨[{ ping with protocol := some "icmp" }, { https with protocol := some "tCp" }], []⟩
    policy.SpelledAlike other ∧ other.decidingPlace tags query = 1 ∧
      policy.decidingPlace tags query = other.decidingPlace tags query ∧ ¬ other.HidesIcmp ∧
      ((policy.validate tags).errors = (other.validate tags).errors ↔ ¬ policy.HidesIcmp) ∧
      ¬ policy.HidesIcmp := by
  intro tags query ping https policy other
  have alike : policy.SpelledAlike other := by decide +kernel
  have shown : ¬ other.HidesIcmp := by decide +kernel
  obtain ⟨_, _, _, samePlace, _, _, said⟩ :=
    protocol_case_counts_for_icmp_alone alike tags query
  exact ⟨alike, by decide +kernel, samePlace, shown, said shown, by decide +kernel⟩

/-- Of two rules for a port of ICMP, validation finds fault with the one in lower case alone. -/
theorem icmp_in_capitals_passes_validation :
    let tags : TagMap := .ofList [("laptop", []), ("web", [])]
    let rule := (Rule.plain .allow "laptop" "web").withPort (.number 7)
    let policy : Policy := ⟨[{ rule with protocol := some "ICMP" }], []⟩
    let other : Policy := ⟨[{ rule with protocol := some "icmp" }], []⟩
    policy.SpelledAlike other ∧ (policy.validate tags).errors = [] ∧
      (other.validate tags).errors = [Rule.icmpMessage] := by
  decide +kernel

end Policy

end NetworkTwin
