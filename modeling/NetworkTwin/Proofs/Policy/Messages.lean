import NetworkTwin.Policy.Validation
import NetworkTwin.Proofs.Policy.Ports

/-!
What validation says of a policy. Every message is about one rule and gives one of four reasons: a
reference at one of the two ends is unknown, the ports of ICMP are restricted, or a port token has a
mistake in it. The reasons are told apart by how the messages begin, so a message is found in a
report just where a rule gives its reason, and a policy is valid where no rule gives any.
-/

namespace NetworkTwin

/-- The two ends of traffic. A rule names the nodes at each of them by one reference. -/
inductive TrafficEnd where
  | source
  | destination
deriving DecidableEq, Repr

def Rule.reference (rule : Rule) : TrafficEnd → String
  | .source => rule.source
  | .destination => rule.destination

def Query.node (query : Query) : TrafficEnd → String
  | .source => query.source
  | .destination => query.destination

def TrafficEnd.lead : TrafficEnd → String
  | .source => "Invalid source reference: "
  | .destination => "Invalid destination reference: "

def TrafficEnd.message (side : TrafficEnd) (reference : String) : String := side.lead ++ reference

def Rule.icmpMessage : String := "ICMP protocol does not support port specification"

/-- Whether a reference is neither the wildcard nor the id or a tag of a node. -/
def TagMap.Unknown (tags : TagMap) (reference : String) : Prop :=
  isAny reference = false ∧ tags.isKnown reference = false

/-- The reasons that a rule gives for messages. -/
inductive Rule.Wrong (rule : Rule) (tags : TagMap) : String → Prop
  | reference (side : TrafficEnd) : tags.Unknown (rule.reference side) →
      rule.Wrong tags (side.message (rule.reference side))
  | icmp : rule.port.isSome = true → rule.protocol = some "icmp" → rule.Wrong tags icmpMessage
  | port {filter : PortFilter} {error : PolicyError} : rule.port = some filter →
      filter.bounds = .error error → rule.Wrong tags error.message

section Beginnings

/-- As much of the beginning of a message as tells its reason. -/
def beginning (message : String) : List Char := message.toList.take 9

theorem beginning_append {lead : String} (long : 9 ≤ lead.toList.length) (rest : String) :
    beginning (lead ++ rest) = beginning lead := by
  rw [beginning, String.toList_append, List.take_append_of_le_length long, beginning]

theorem TrafficEnd.beginning_message (side : TrafficEnd) (reference : String) :
    beginning (side.message reference) = beginning side.lead := by
  have long : 9 ≤ side.lead.toList.length := by
    cases side <;> decide
  exact beginning_append long reference

theorem beginning_of_bounds {filter : PortFilter} {error : PolicyError}
    (failed : filter.bounds = .error error) :
    beginning error.message = beginning "invalid port '" := by
  obtain ⟨token, flaw, rfl⟩ := PortFilter.invalid_port_of_bounds failed
  have parts : (PolicyError.invalidPort token flaw).message =
      "invalid port '" ++ (token ++ ("': " ++ flaw.reason)) := by
    rw [← String.append_assoc, ← String.append_assoc]
    rfl
  rw [parts]
  exact beginning_append (by decide) _

end Beginnings

theorem TrafficEnd.message_inj {side other : TrafficEnd} {reference another : String} :
    side.message reference = other.message another ↔ side = other ∧ reference = another := by
  constructor
  · intro same
    have begins := congrArg beginning same
    rw [side.beginning_message, other.beginning_message] at begins
    have sameSide : side = other := by
      revert begins
      cases side <;> cases other <;> decide
    subst sameSide
    exact ⟨rfl, (String.append_right_inj side.lead).1 same⟩
  · rintro ⟨rfl, rfl⟩
    rfl

theorem TrafficEnd.message_ne_icmp (side : TrafficEnd) (reference : String) :
    side.message reference ≠ Rule.icmpMessage := by
  intro same
  have begins := congrArg beginning same
  rw [side.beginning_message] at begins
  revert begins
  cases side <;> decide

theorem TrafficEnd.message_ne_of_bounds (side : TrafficEnd) (reference : String)
    {filter : PortFilter} {error : PolicyError} (failed : filter.bounds = .error error) :
    side.message reference ≠ error.message := by
  intro same
  have begins := congrArg beginning same
  rw [side.beginning_message, beginning_of_bounds failed] at begins
  revert begins
  cases side <;> decide

namespace Rule

variable {rule : Rule} {tags : TagMap} {message : String}

theorem mem_reference_errors_iff :
    message ∈ rule.referenceErrors tags ↔
      ∃ side : TrafficEnd, tags.Unknown (rule.reference side) ∧
        message = side.message (rule.reference side) := by
  have single (side : TrafficEnd) :
      message ∈ (if !isAny (rule.reference side) && !tags.isKnown (rule.reference side) then
        [side.message (rule.reference side)] else []) ↔
      tags.Unknown (rule.reference side) ∧ message = side.message (rule.reference side) := by
    simp [TagMap.Unknown, and_assoc]
  unfold referenceErrors
  rw [List.mem_append]
  constructor
  · rintro (atSource | atDestination)
    · exact ⟨.source, (single .source).1 atSource⟩
    · exact ⟨.destination, (single .destination).1 atDestination⟩
  · rintro ⟨side, wrong⟩
    cases side with
    | source => exact Or.inl ((single .source).2 wrong)
    | destination => exact Or.inr ((single .destination).2 wrong)

def icmpErrors (rule : Rule) : List String :=
  if rule.port.isSome = true ∧ rule.protocol = some "icmp" then [icmpMessage] else []

def filterErrors (rule : Rule) : List String :=
  match rule.port with
  | none => []
  | some filter =>
      match filter.bounds with
      | .ok _ => []
      | .error error => [error.message]

theorem port_errors_eq (rule : Rule) : rule.portErrors = rule.icmpErrors ++ rule.filterErrors := by
  unfold portErrors icmpErrors filterErrors
  cases rule.port with
  | none => simp
  | some filter =>
      simp only [Option.isSome_some, true_and]
      rfl

theorem mem_icmp_errors_iff :
    message ∈ rule.icmpErrors ↔
      rule.port.isSome = true ∧ rule.protocol = some "icmp" ∧ message = icmpMessage := by
  simp [icmpErrors, and_assoc]

theorem mem_filter_errors_iff :
    message ∈ rule.filterErrors ↔
      ∃ filter error, rule.port = some filter ∧ filter.bounds = .error error ∧
        message = error.message := by
  unfold filterErrors
  cases rule.port with
  | none => simp
  | some filter => cases bounds : filter.bounds <;> simp [bounds]

theorem mem_errors_iff : message ∈ rule.errors tags ↔ rule.Wrong tags message := by
  rw [errors, port_errors_eq, List.mem_append, List.mem_append, mem_reference_errors_iff,
    mem_icmp_errors_iff, mem_filter_errors_iff]
  constructor
  · rintro (⟨side, unknown, rfl⟩ | ⟨restricts, isIcmp, rfl⟩ |
      ⟨filter, error, restricts, failed, rfl⟩)
    · exact .reference side unknown
    · exact .icmp restricts isIcmp
    · exact .port restricts failed
  · intro wrong
    cases wrong with
    | reference side unknown => exact Or.inl ⟨side, unknown, rfl⟩
    | icmp restricts isIcmp => exact Or.inr (Or.inl ⟨restricts, isIcmp, rfl⟩)
    | port restricts failed => exact Or.inr (Or.inr ⟨_, _, restricts, failed, rfl⟩)

theorem wrong_reference_iff {side : TrafficEnd} {reference : String} :
    rule.Wrong tags (side.message reference) ↔
      rule.reference side = reference ∧ tags.Unknown reference := by
  constructor
  · intro wrong
    generalize same : side.message reference = message at wrong
    cases wrong with
    | reference other unknown =>
        obtain ⟨rfl, rfl⟩ := TrafficEnd.message_inj.1 same
        exact ⟨rfl, unknown⟩
    | icmp => exact absurd same (side.message_ne_icmp reference)
    | port _ failed => exact absurd same (side.message_ne_of_bounds reference failed)
  · rintro ⟨rfl, unknown⟩
    exact .reference side unknown

end Rule

namespace Policy

variable {policy : Policy} {tags : TagMap}

theorem mem_validate_errors_iff {message : String} :
    message ∈ (policy.validate tags).errors ↔ ∃ rule ∈ policy.rules, rule.Wrong tags message := by
  simp only [validate, List.mem_flatMap, Rule.mem_errors_iff]

theorem validate_valid_iff :
    (policy.validate tags).valid = true ↔
      ∀ rule ∈ policy.rules, ∀ message, ¬ rule.Wrong tags message := by
  have empty : (policy.validate tags).valid = true ↔ (policy.validate tags).errors = [] :=
    List.isEmpty_iff
  rw [empty, List.eq_nil_iff_forall_not_mem]
  simp only [mem_validate_errors_iff, not_exists, not_and]
  constructor
  · intro right rule member message
    exact right message rule member
  · intro right message rule member
    exact right rule member message

end Policy

end NetworkTwin
