import NetworkTwin.Proofs.Run.Assembly
import NetworkTwin.Proofs.Wire.Results

/-!
The evidence of findings. Whatever a run observes comes without evidence or with an object that is
in order and whose numbers are in range, as long as the metadata of the attacks is. So evidence is
never nothing, which would be lost when it is written.
-/

namespace NetworkTwin

/-! Written forms whose numbers are in range -/

namespace Value

theorem in_range_natural {number : Nat} (below : number < 2 ^ 64) : (natural number).InRange :=
  is_finite_of_nat below

theorem in_range_real (value : Float) : (real value).InRange := by
  unfold real
  split
  · assumption
  · trivial

theorem in_range_of_option {value : Option Value} (each : ∀ given ∈ value, given.InRange) :
    (ofOption value).InRange := by
  cases value with
  | none => trivial
  | some value => exact each value rfl

theorem in_range_some {value : Value} (inRange : value.InRange) :
    ∀ given ∈ some value, given.InRange := by
  rintro given ⟨⟩
  exact inRange

theorem in_range_map {α : Type} {write : α → Value} {field : Option α}
    (each : ∀ item ∈ field, (write item).InRange) : ∀ value ∈ field.map write, value.InRange := by
  intro value written
  obtain ⟨item, given, rfl⟩ := Option.map_eq_some_iff.1 written
  exact each item given

theorem in_range_record {fields : List (String × Option Value)}
    (each : fields.Forall fun field => ∀ value ∈ field.2, value.InRange) :
    (record fields).InRange := by
  apply in_range_object.2
  intro entry member
  obtain ⟨field, given, present⟩ := List.mem_filterMap.1 member
  obtain ⟨value, written, rfl⟩ := Option.map_eq_some_iff.1 present
  exact List.forall_iff_forall_mem.1 each field given value written

theorem in_range_of_attributes {attributes : Dictionary Value}
    (holds : attributes.HoldsDocuments) : (ofAttributes attributes).InRange :=
  in_range_object.2 fun entry member => (holds entry member).inRange

end Value

open Value in
theorem Flow.in_range_encode (flow : Flow) : flow.encode.InRange :=
  in_range_record
    ⟨in_range_some trivial, in_range_some trivial, in_range_some trivial, in_range_some trivial,
      in_range_map fun port _ => in_range_natural (Nat.lt_trans port.toNat_lt (by decide)),
      in_range_some (in_range_real _), in_range_map fun _ _ => trivial⟩

theorem PortFilter.in_range_encode (filter : PortFilter) : filter.encode.InRange := by
  cases filter with
  | number port => exact Value.in_range_natural (Nat.lt_trans port.toNat_lt (by decide))
  | range token => trivial

open Value in
theorem Rule.in_range_encode (rule : Rule) : rule.encode.InRange :=
  in_range_record
    ⟨in_range_some trivial, in_range_map fun _ _ => trivial, in_range_some trivial,
      in_range_some trivial, in_range_map fun filter _ => filter.in_range_encode,
      in_range_map fun _ _ => trivial⟩

open Value in
theorem AttackEvent.in_range_encode {attack : AttackEvent}
    (holds : ∀ metadata ∈ attack.metadata, metadata.HoldsDocuments) : attack.encode.InRange :=
  in_range_record
    ⟨in_range_some trivial, in_range_some trivial, in_range_some trivial,
      in_range_map fun _ _ => trivial, in_range_some (in_range_natural attack.timestamp.toNat_lt),
      in_range_map fun metadata given => in_range_of_attributes (holds metadata given)⟩

/-! Observations -/

namespace Observation

/-- If there is evidence, then it is in order, in range, and not nothing. -/
def Substantiated (observation : Observation) : Prop :=
  ∀ evidence ∈ observation.evidence, evidence.IsDocument ∧ evidence ≠ .null

theorem substantiated_of_none {observation : Observation} (none : observation.evidence = none) :
    observation.Substantiated := by
  intro evidence given
  rw [none] at given
  cases given

theorem substantiated_of_some {observation : Observation} {value : Value}
    (given : observation.evidence = some value.normalize) (inRange : value.InRange)
    (present : value ≠ .null) : observation.Substantiated := by
  intro evidence here
  obtain rfl := Option.some.inj (given.symm.trans here)
  exact ⟨⟨Value.in_range_normalize inRange, Value.normalize_normalize value⟩,
    fun absent => present (Value.normalize_eq_null absent)⟩

end Observation

theorem Flow.substantiated_blocked (flow : Flow) (firewall : Node) (decision : Decision) :
    (flow.blocked firewall decision).Substantiated := by
  refine Observation.substantiated_of_some rfl ?_ (fun absent => nomatch absent)
  refine ⟨flow.in_range_encode, ?_, trivial⟩
  exact Value.in_range_of_option (Value.in_range_map fun rule _ => rule.in_range_encode)

theorem Verdict.substantiated_observation (verdict : Verdict) {attack : AttackEvent}
    (holds : ∀ metadata ∈ attack.metadata, metadata.HoldsDocuments) :
    (verdict.observation attack).Substantiated := by
  have given :
      (verdict.observation attack).evidence = some (verdict.evidence attack).normalize := by
    unfold observation
    cases verdict.obstacle? <;> rfl
  refine Observation.substantiated_of_some given ?_ (fun absent => nomatch absent)
  refine ⟨AttackEvent.in_range_encode holds, trivial, ?_, trivial⟩
  exact Value.in_range_of_option (Value.in_range_map fun _ _ => trivial)

theorem Graph.substantiated_exposures (graph : Graph) {exposure : Observation}
    (found : exposure ∈ graph.exposures) : exposure.Substantiated := by
  obtain ⟨node, _, here⟩ := List.mem_flatMap.1 found
  apply Observation.substantiated_of_none
  rcases List.mem_append.1 here with unencrypted | guests
  · unfold Node.encryptionCheck at unencrypted
    split at unencrypted
    · obtain rfl := List.mem_singleton.1 unencrypted
      rfl
    · cases unencrypted
  · unfold Graph.guestCheck at guests
    dsimp only at guests
    split at guests
    · obtain rfl := List.mem_singleton.1 guests
      rfl
    · cases guests

/-- All metadata of the attacks is as documents hold it. -/
def Scenario.HoldsDocuments (scenario : Scenario) : Prop :=
  ∀ attack ∈ scenario.attacks, ∀ metadata ∈ attack.metadata, metadata.HoldsDocuments

theorem Config.substantiated_observations (config : Config) (graph : Graph) {scenario : Scenario}
    (holds : scenario.HoldsDocuments) {observation : Observation}
    (observed : observation ∈ config.observations graph scenario) : observation.Substantiated := by
  unfold observations at observed
  dsimp only at observed
  rcases List.mem_append.1 observed with before | exposed
  · rcases List.mem_append.1 before with before | attacked
    · rcases List.mem_append.1 before with warned | sent
      · obtain ⟨issue, _, rfl⟩ := List.mem_map.1 warned
        exact Observation.substantiated_of_none rfl
      · obtain ⟨flow, _, told⟩ := List.mem_filterMap.1 sent
        generalize config.outcome _ flow = outcome at told
        cases outcome with
        | unreachable =>
            obtain rfl := Option.some.inj told
            exact Observation.substantiated_of_none rfl
        | blocked firewall decision =>
            obtain rfl := Option.some.inj told
            exact flow.substantiated_blocked firewall decision
        | delivered route evaluated => cases told
    · obtain ⟨attack, tried, rfl⟩ := List.mem_map.1 attacked
      exact Verdict.substantiated_observation _ (holds attack tried)
  · exact Graph.substantiated_exposures _ exposed

end NetworkTwin
