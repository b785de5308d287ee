import NetworkTwin.Proofs.Instant.Written
import NetworkTwin.Proofs.Run.Assembly
import NetworkTwin.Proofs.Run.Static

/-!
The identifiers of runs and findings. Each is the hash of a text put together without any quoting.
The text of a run is split at its last at sign, since a time has none. The text of a finding is split
at its first two number signs, since neither an identifier nor a numeral has one. So different things
have different texts, and identifiers agree only where the hash does not tell two texts apart.
-/

namespace NetworkTwin

namespace Fingerprint

/-- Sixteen hexadecimal digits, the letters in lower case. -/
structure IsIdentifier (text : String) : Prop where
  length : text.length = 16
  digits : ∀ c ∈ text.toList, Text.isHexDigit c = true

theorem hex_to_list (word : UInt64) :
    (hex word).toList = (Text.digitsLow 16 16 word.toNat).reverse :=
  String.toList_ofList

theorem is_identifier_hex (word : UInt64) : IsIdentifier (hex word) where
  length := by
    rw [← String.length_toList, hex_to_list, List.length_reverse, Text.length_digits_low]
  digits c member := by
    rw [hex_to_list, List.mem_reverse] at member
    exact Text.digits_low_are_hex 16 word.toNat c member

theorem hex_inj {word other : UInt64} (same : hex word = hex other) : word = other := by
  have fits (word : UInt64) : word.toNat < Nat.pow 16 16 := word.toNat_lt
  have digits := congrArg String.toList same
  rw [hex_to_list, hex_to_list] at digits
  exact UInt64.toNat_inj.1
    (Text.digits_low_inj (fits word) (fits other) (List.reverse_inj.1 digits))

theorem is_identifier_of_key (key : String) : IsIdentifier (ofKey key) := is_identifier_hex _

theorem IsIdentifier.number_sign_not_mem {text : String} (identifier : IsIdentifier text) :
    '#' ∉ text.toList := fun member =>
  absurd (identifier.digits '#' member) (by decide)

/-- Whether the hash tells all of these texts apart. -/
def Separates (keys : List String) : Prop :=
  ∀ key ∈ keys, ∀ other ∈ keys,
    hash seed key.toUTF8.toList = hash seed other.toUTF8.toList → key = other

instance (keys : List String) : Decidable (Separates keys) :=
  inferInstanceAs (Decidable (∀ key ∈ keys, ∀ other ∈ keys, _ → key = other))

theorem nodup_of_key_iff {keys : List String} (distinct : keys.Nodup) :
    (keys.map ofKey).Nodup ↔ Separates keys := by
  constructor
  · intro nodup key member other member' same
    exact List.inj_on_of_nodup_map nodup member member' (congrArg hex same)
  · intro separates
    exact List.Nodup.map_on
      (fun key member other member' same => separates key member other member' (hex_inj same))
      distinct

end Fingerprint

open Fingerprint

/-! The texts of runs and findings -/

theorem run_key_to_list (scenarioId : String) (now : Instant) :
    (runKey scenarioId now).toList = scenarioId.toList ++ '@' :: now.renderOffset.toList := by
  simp [runKey]

theorem run_key_inj {scenarioId other : String} {now later : Instant} (onClock : now.OnClock)
    (onClock' : later.OnClock) (same : runKey scenarioId now = runKey other later) :
    scenarioId = other ∧ now = later := by
  have parts := congrArg String.toList same
  rw [run_key_to_list, run_key_to_list] at parts
  obtain ⟨sameScenario, sameTime⟩ :=
    Text.parts_at_last now.at_sign_not_mem_render_offset later.at_sign_not_mem_render_offset parts
  exact ⟨String.toList_inj.1 sameScenario, Instant.render_offset_inj onClock onClock' sameTime⟩

theorem finding_key_to_list (run : String) (place : Nat) (observation : Observation) :
    (findingKey run place observation).toList =
      run.toList ++ '#' :: ((toString place).toList ++ '#' ::
        (observation.title.toList ++ '#' :: observation.description.toList)) := by
  simp [findingKey]

theorem finding_key_inj {run run' : String} {place place' : Nat}
    {observation observation' : Observation} (identifier : IsIdentifier run)
    (identifier' : IsIdentifier run')
    (same : findingKey run place observation = findingKey run' place' observation') :
    run = run' ∧ place = place' := by
  have free (place : Nat) : '#' ∉ (toString place).toList := fun member =>
    absurd (Text.decimal_characters place '#' member) (by decide)
  have parts := congrArg String.toList same
  rw [finding_key_to_list, finding_key_to_list] at parts
  obtain ⟨sameRun, later⟩ :=
    Text.parts_at_first identifier.number_sign_not_mem identifier'.number_sign_not_mem parts
  obtain ⟨samePlace, _⟩ := Text.parts_at_first (free place) (free place') later
  exact ⟨String.toList_inj.1 sameRun, Text.decimal_inj (String.toList_inj.1 samePlace)⟩

/-! The findings of a run -/

/-- The texts that the identifiers of observations are made from when a run records them. -/
def findingKeys (run : String) (observations : List Observation) : List String :=
  observations.mapIdx fun place observation => findingKey run place observation

theorem nodup_finding_keys {run : String} (identifier : IsIdentifier run)
    (observations : List Observation) : (findingKeys run observations).Nodup := by
  refine List.pairwise_iff_getElem.2 fun place place' below below' earlier same => ?_
  simp only [findingKeys, List.getElem_mapIdx] at same
  exact Nat.ne_of_lt earlier (finding_key_inj identifier identifier same).2

theorem ids_record_all (run : String) (now : Instant) (observations : List Observation) :
    (recordAll run now observations).map Finding.id = (findingKeys run observations).map ofKey := by
  apply List.ext_getElem?
  intro place
  simp [recordAll, findingKeys, Observation.record, Function.comp_def]

namespace RunResult

def findingKeys (result : RunResult) : List String :=
  NetworkTwin.findingKeys result.id result.observed

/-- How a result is identified: the run by the hash of a text, and its findings by the hashes of
texts that all differ. -/
structure IdentifiedBy (result : RunResult) (key : String) : Prop where
  run : result.id = ofKey key
  runIdentifier : IsIdentifier result.id
  findings : result.findings.map Finding.id = result.findingKeys.map ofKey
  findingIdentifiers : ∀ finding ∈ result.findings, IsIdentifier finding.id
  keysDiffer : result.findingKeys.Nodup
  idsDiffer : (result.findings.map Finding.id).Nodup ↔ Separates result.findingKeys

theorem identified_by_of_findings {result : RunResult} {key : String} {now : Instant}
    {observations : List Observation} (run : result.id = ofKey key)
    (recorded : result.findings = recordAll result.id now observations) :
    result.IdentifiedBy key := by
  have identifier : IsIdentifier result.id := run ▸ is_identifier_of_key key
  have keys : result.findingKeys = NetworkTwin.findingKeys result.id observations := by
    rw [findingKeys, observed, recorded, observed_record_all]
  have ids : result.findings.map Finding.id = result.findingKeys.map ofKey := by
    rw [keys, recorded, ids_record_all]
  have distinct : result.findingKeys.Nodup := keys ▸ nodup_finding_keys identifier observations
  refine ⟨run, identifier, ids, fun finding member => ?_, distinct, ?_⟩
  · have listed : finding.id ∈ result.findingKeys.map ofKey := ids ▸ List.mem_map_of_mem member
    obtain ⟨source, _, made⟩ := List.mem_map.1 listed
    exact made ▸ is_identifier_of_key source
  · rw [ids]
    exact nodup_of_key_iff distinct

end RunResult

theorem Config.simulate_identified (config : Config) (span : Span) (graph : Graph)
    (scenario : Scenario) :
    (config.simulate span graph scenario).IdentifiedBy (runKey scenario.id span.startedAt) := by
  refine @config.forall_simulate span graph scenario
    (fun result => result.IdentifiedBy (runKey scenario.id span.startedAt)) ?_ ?_
  · have recorded : (graph.validate.failure span graph scenario.id).findings =
        recordAll (graph.validate.failure span graph scenario.id).id span.startedAt [] := rfl
    exact RunResult.identified_by_of_findings rfl recorded
  · have recorded : (config.completion span graph scenario).findings =
        recordAll (config.completion span graph scenario).id span.startedAt
          (config.observations graph scenario) := rfl
    exact RunResult.identified_by_of_findings rfl recorded

/-- Whatever is identified has a text of its own, whatever names, titles and descriptions it holds. So
identifiers are sixteen digits that differ unless the hash fails to tell two of the texts apart. -/
theorem identifiers_collide_only_if_hash_does :
    (∀ (config : Config) (span : Span) (graph : Graph) (scenario : Scenario),
      (config.simulate span graph scenario).IdentifiedBy (runKey scenario.id span.startedAt)) ∧
    (∀ (run run' : String) (place place' : Nat) (observation observation' : Observation),
      IsIdentifier run → IsIdentifier run' → (run, place) ≠ (run', place') →
      findingKey run place observation ≠ findingKey run' place' observation') ∧
    ∀ (scenarioId other : String) (now later : Instant),
      now.OnClock → later.OnClock → (scenarioId, now) ≠ (other, later) →
      runKey scenarioId now ≠ runKey other later := by
  refine ⟨Config.simulate_identified, ?_, ?_⟩
  · intro run run' place place' observation observation' identifier identifier' differ same
    obtain ⟨rfl, rfl⟩ := finding_key_inj identifier identifier' same
    exact differ rfl
  · intro scenarioId other now later onClock onClock' differ same
    obtain ⟨rfl, rfl⟩ := run_key_inj onClock onClock' same
    exact differ rfl

/-- A flow that is sent twice, to what is named like a piece of the text of a finding, in a scenario
named like the text of a run. -/
def echo : Scenario :=
  let flow := Flow.plain "echo" "router" "moon#1#" "tcp"
  ((Scenario.plain "lab@1970-01-01T00:00:00+00:00" "Echo" "lab").addFlow flow).addFlow flow

/-- What is found of both flows reads alike, and still its identifiers differ. -/
theorem identifiers_collide_only_if_hash_does_echo :
    let result := Config.default.simulate .epoch Sample.routerAndServer echo
    let observation := (Flow.plain "echo" "router" "moon#1#" "tcp").unreachable
    result.observed.map (fun seen => (seen.title, seen.description)) =
        [(observation.title, observation.description),
          (observation.title, observation.description)] ∧
      (result.findings.map Finding.id).Nodup ∧
      findingKey result.id 0 observation ≠ findingKey result.id 1 observation ∧
      runKey echo.id .epoch ≠ runKey "lab" .epoch ∧
      runKey echo.id .epoch ≠ runKey echo.id ⟨59, 1999999999⟩ := by
  obtain ⟨identified, findings, runs⟩ := identifiers_collide_only_if_hash_does
  have echoed := identified Config.default .epoch Sample.routerAndServer echo
  refine ⟨by decide +kernel, echoed.idsDiffer.2 (by decide +kernel),
    findings _ _ _ _ _ _ echoed.runIdentifier echoed.runIdentifier ?_,
    runs _ _ _ _ (by decide) (by decide) (by decide),
    runs _ _ _ _ (by decide) (by decide) (by decide)⟩
  exact fun same => absurd (congrArg Prod.snd same) (by decide)

end NetworkTwin
