import NetworkTwin.Proofs.Wire.Reports

/-!
Results of runs as documents. A result survives being written if every latency in it is finite or
infinite above, as an infinite one is written as nothing and nothing is read as infinite, and if no
finding has nothing for its evidence, as this would be read as no evidence.
-/

namespace NetworkTwin

/-- Free-form data as documents hold it: numbers in range, and the entries of objects in order. -/
structure Value.IsDocument (value : Value) : Prop where
  inRange : value.InRange
  normal : value.normalize = value

def Dictionary.HoldsDocuments (attributes : Dictionary Value) : Prop :=
  ∀ entry ∈ attributes.entries, entry.2.IsDocument

namespace Codec.Keeps

theorem attributes {attributes : Dictionary Value} (holds : attributes.HoldsDocuments) :
    Codec.attributes.Keeps attributes := by
  rw [Codec.attributes_eq]
  apply Keeps.dictionary
  intro entry member
  exact .value (holds entry member).inRange (holds entry member).normal

end Codec.Keeps

namespace Slot

variable {ρ : Type} {name : String} {record : ρ}

theorem Keeps.optional_text {get : ρ → Option String} :
    (Slot.optional name .text get).Keeps record :=
  .optional fun item _ => ⟨.text item, fun absent => nomatch absent⟩

theorem Keeps.texts {get : ρ → List String} : (Slot.required name (.list .text) get).Keeps record :=
  .required (.list fun item _ => .text item)

end Slot

theorem Event.keeps {event : Event}
    (holds : ∀ metadata ∈ event.metadata, metadata.HoldsDocuments) : codec.Keeps event :=
  laid_out.keeps
    ⟨.required (.uint64 _), .required (.choice (EventKind.of_name_name _)), .optional_text,
      .optional_text, .optional_text, .required (.text _),
      .optional fun metadata given =>
        ⟨.attributes (holds metadata given), fun absent => nomatch absent⟩⟩

/-- Whether the table holds latencies that are finite or infinite above. -/
def Matrix.Extends (latencies : Matrix Float) : Prop :=
  ∀ row ∈ latencies.entries, ∀ cell ∈ row.2.entries,
    cell.2.isFinite = true ∨ cell.2 = 1.0 / 0.0

theorem Metrics.keeps {metrics : Metrics} (extended : Matrix.Extends metrics.latencies) :
    codec.Keeps metrics :=
  laid_out.keeps
    ⟨.required (.dictionary fun _ _ => .dictionary fun cell _ => .bool cell.2),
      .required (.dictionary fun row given => .dictionary fun cell inRow =>
        .latency (extended row given cell inRow)),
      .required (.uint64 _), .required (.uint64 _), .required (.uint64 _), .required (.uint64 _)⟩

theorem BlastReport.keeps (report : BlastReport) : codec.Keeps report :=
  laid_out.keeps ⟨.required (.text _), .texts, .texts, .required (.uint64 _)⟩

theorem Finding.keeps {finding : Finding}
    (stamped : Instant.read? finding.createdAt.render = some finding.createdAt)
    (documents : ∀ evidence ∈ finding.evidence, evidence.IsDocument)
    (present : finding.evidence ≠ some .null) : codec.Keeps finding :=
  laid_out.keeps
    ⟨.required (.text _), .optional_text, .required (.choice (Severity.ofName?_name _)),
      .required (.text _), .required (.text _), .withDefault (.list fun text _ => .text text),
      .withDefault (.list fun text _ => .text text),
      .optional fun evidence given =>
        ⟨.value (documents evidence given).inRange (documents evidence given).normal,
          fun absent => present (given.trans (congrArg some absent))⟩,
      .optional_text, .optional_text, .required (Instant.keeps stamped)⟩

theorem RunStatus.of_name_name (status : RunStatus) : ofName? status.name = some status := by
  cases status <;> decide +kernel

namespace RunResult

/-- The result has nothing in it that its written form cannot tell. -/
structure Writable (result : RunResult) : Prop where
  latencies : Matrix.Extends result.metrics.latencies
  evidence : ∀ finding ∈ result.findings, finding.evidence ≠ some .null

/-- All free-form data in the result is as documents hold it. -/
structure HoldsDocuments (result : RunResult) : Prop where
  metadata : ∀ event ∈ result.events, ∀ metadata ∈ event.metadata, metadata.HoldsDocuments
  evidence : ∀ finding ∈ result.findings, ∀ evidence ∈ finding.evidence, evidence.IsDocument

def stamps (result : RunResult) : List Instant :=
  result.startedAt :: result.finishedAt.toList ++ result.findings.map (·.createdAt)

/-- The times of the wall clock in the result are read back from their written forms. -/
def Stamped (result : RunResult) : Prop :=
  ∀ stamp ∈ result.stamps, Instant.read? stamp.render = some stamp

def codec : Codec RunResult := ⟨decode, encode⟩

def layout : List (Slot RunResult) := [
  .required "id" .text (·.id),
  .required "scenarioId" .text (·.scenarioId),
  .required "status" (.choice RunStatus.ofName? RunStatus.name) (·.status),
  .required "startedAt" Instant.codec (·.startedAt),
  .optional "finishedAt" Instant.codec (·.finishedAt),
  .required "events" (.list Event.codec) (·.events),
  .required "metrics" Metrics.codec (·.metrics),
  .required "findings" (.list Finding.codec) (·.findings),
  .optional "blastRadius" BlastReport.codec (·.blastRadius)]

theorem laid_out : LaidOut codec layout where
  distinct := by decide
  written _ := rfl
  read {_ record} := by
    cases record
    simp only [codec, decode, bind_eq_ok_iff, pure_eq_ok_iff, RunResult.mk.injEq, existsAndEq,
      and_true]
    exact Iff.rfl

theorem keeps {result : RunResult} (documents : result.HoldsDocuments) (stamped : result.Stamped)
    (writable : result.Writable) : codec.Keeps result := by
  have started := stamped result.startedAt (by simp [stamps])
  have finished (instant : Instant) (given : instant ∈ result.finishedAt) :=
    stamped instant (by simp [stamps, Option.mem_def.1 given])
  have created (finding : Finding) (given : finding ∈ result.findings) :=
    stamped finding.createdAt (by
      simp only [stamps, List.cons_append, List.mem_cons, List.mem_append]
      exact Or.inr (Or.inr (List.mem_map_of_mem given)))
  exact laid_out.keeps
    ⟨.required (.text _), .required (.text _), .required (.choice (RunStatus.of_name_name _)),
      .required (Instant.keeps started),
      .optional fun instant given =>
        ⟨Instant.keeps (finished instant given), fun absent => nomatch absent⟩,
      .required (.list fun event given => Event.keeps (documents.metadata event given)),
      .required (Metrics.keeps writable.latencies),
      .required (.list fun finding given => Finding.keeps (created finding given)
        (documents.evidence finding given) (writable.evidence finding given)),
      .optional fun report _ => ⟨BlastReport.keeps report, fun absent => nomatch absent⟩⟩

end RunResult

/-! What a document tells -/

namespace Value

def field? (name : String) : Value → Option Value
  | .object entries => entries.lookup name
  | _ => none

/-- What the document of a result tells of the latency between two nodes. -/
def toldLatency? (document : Value) (source target : String) : Option Value :=
  ((document.field? "metrics").bind (·.field? "latencyMatrix")).bind fun table =>
    (table.field? source).bind (·.field? target)

end Value

theorem LaidOut.field_encode {ρ : Type} {codec : Codec ρ} {layout : List (Slot ρ)}
    (laidOut : LaidOut codec layout) {slot : Slot ρ} (placed : slot ∈ layout) (record : ρ) :
    (codec.encode record).field? slot.name = slot.written record := by
  have distinct : ((layout.map fun slot => (slot.name, slot.written record)).map (·.1)).Nodup := by
    rw [List.map_map]
    exact laidOut.distinct
  have member : (slot.name, slot.written record) ∈
      layout.map fun slot => (slot.name, slot.written record) :=
    List.mem_map.2 ⟨slot, placed, rfl⟩
  rw [laidOut.written]
  exact lookup_written_fields distinct member

theorem Matrix.field_encode {β : Type} (entry : β → Value) (table : Matrix β)
    (source target : String) :
    ((table.encode entry).field? source).bind (·.field? target) =
      ((table.get? source).bind (·.get? target)).map entry := by
  let written (row : Dictionary β) : Value :=
    .object (row.entries.map fun cell : String × β => (cell.1, entry cell.2))
  have row : (table.encode entry).field? source = (table.get? source).map written :=
    lookup_map_values written table.entries source
  rw [row, Option.bind_map, Option.map_bind]
  refine congrArg _ (funext fun row => ?_)
  exact lookup_map_values entry row.entries target

theorem RunResult.told_latency_encode (result : RunResult) (source target : String) :
    result.encode.toldLatency? source target =
      ((result.metrics.latencies.get? source).bind (·.get? target)).map Value.real := by
  have metrics : result.encode.field? "metrics" = some result.metrics.encode :=
    laid_out.field_encode (List.mem_of_getElem? (show layout[6]? = some _ from rfl)) result
  have table : result.metrics.encode.field? "latencyMatrix" =
      some (result.metrics.latencies.encode Value.real) := rfl
  rw [← Matrix.field_encode, Value.toldLatency?, metrics, Option.bind_some, table,
    Option.bind_some]

end NetworkTwin
