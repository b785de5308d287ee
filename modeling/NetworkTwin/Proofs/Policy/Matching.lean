import NetworkTwin.Policy.Evaluation

/-!
What it takes for a rule to match a query: each of its two references is the wildcard or a name of
the node at that end, its protocol is a wildcard or a name that the traffic goes by, and its ports,
if it restricts them, let the port of the query pass.
-/

namespace NetworkTwin

namespace TagMap

/-- The tags of a node. A node that is not there has none. -/
def tagsOf (tags : TagMap) (node : String) : List String := (tags.get? node).getD []

/-- What a node is called in rules, but for the wildcard: its id and its tags. -/
def names (tags : TagMap) (node : String) : List String := node :: tags.tagsOf node

theorem refers_to_iff {tags : TagMap} {reference node : String} :
    tags.refersTo reference node = true ↔
      isAny reference = true ∨ reference ∈ tags.names node := by
  simp [refersTo, names, tagsOf, or_assoc]

end TagMap

/-- Whether traffic goes by the name of a protocol, in any case of its letters. -/
def Query.GoesBy (query : Query) (name : String) : Prop :=
  ∃ used, query.protocol = some used ∧ Text.sameIgnoringCase used name = true

theorem Query.goes_by_iff {query : Query} {name : String} :
    query.GoesBy name ↔
      query.protocol.map Text.lowerAsciiText = some (Text.lowerAsciiText name) := by
  simp only [GoesBy, Option.map_eq_some_iff, Text.same_ignoring_case_iff]

theorem PortFilter.admits_iff {filter : PortFilter} {port : UInt16} :
    filter.admits port = true ↔
      ∃ low high, filter.bounds = .ok (low, high) ∧ low ≤ port ∧ port ≤ high := by
  unfold admits
  cases filter.bounds with
  | error flaw => simp
  | ok bounds => simp [Prod.ext_iff, and_assoc]

theorem PortFilter.number_admits_iff {number port : UInt16} :
    (PortFilter.number number).admits port = true ↔ port = number := by
  rw [admits_iff]
  constructor
  · rintro ⟨low, high, same, least, greatest⟩
    cases same
    exact UInt16.le_antisymm greatest least
  · rintro rfl
    exact ⟨port, port, rfl, UInt16.le_refl port, UInt16.le_refl port⟩

namespace Rule

variable {rule : Rule} {query : Query} {tags : TagMap}

theorem covers_protocol_iff :
    rule.coversProtocol query.protocol = true ↔
      ∀ wanted, rule.protocol = some wanted → isAny wanted = true ∨ query.GoesBy wanted := by
  unfold coversProtocol coversAllProtocols Query.GoesBy
  cases rule.protocol <;> cases query.protocol <;> simp

theorem covers_port_iff {port? : Option UInt16} :
    rule.coversPort port? = true ↔
      ∀ filter, rule.port = some filter →
        ∃ port, port? = some port ∧ filter.admits port = true := by
  unfold coversPort
  cases rule.port <;> cases port? <;> simp

theorem matches_eq_true_iff :
    rule.matches tags query = true ↔
      (isAny rule.source = true ∨ rule.source ∈ tags.names query.source) ∧
      (isAny rule.destination = true ∨ rule.destination ∈ tags.names query.destination) ∧
      (∀ wanted, rule.protocol = some wanted → isAny wanted = true ∨ query.GoesBy wanted) ∧
      ∀ filter, rule.port = some filter →
        ∃ port, query.port = some port ∧ filter.admits port = true := by
  rw [Rule.matches, Bool.and_eq_true, Bool.and_eq_true, Bool.and_eq_true, TagMap.refers_to_iff,
    TagMap.refers_to_iff, covers_protocol_iff, covers_port_iff, and_assoc, and_assoc]

end Rule

end NetworkTwin
