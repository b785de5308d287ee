import NetworkTwin.Loading
import NetworkTwin.Proofs.Json.Parsing
import NetworkTwin.Proofs.Wire.Nesting
import NetworkTwin.Proofs.Wire.Reports

/-!
What is read from a document survives being written, and loading what is written in the brace format
judges it by its schema alone, as long as it is not nested deeper than a reader of the format
follows.
-/

namespace NetworkTwin

/-- Reading a text in the brace format that is the written form of an item, if its depth is what the
typed reading meets. -/
theorem Format.load_written {α : Type} {shape : Shape} {codec : Codec α} {text : String} {item : α}
    (readsBack : codec.decode (codec.encode item).toTree = .ok item)
    (measured : shape.Measures (codec.encode item))
    (written : Json.read? text = some (codec.encode item).toTree) :
    json.load? shape codec.decode text =
      if (codec.encode item).depth ≤ Json.maxDepth then some item else none := by
  rw [load?, read?, written, Option.filter_some, measured]
  by_cases shallow : (codec.encode item).depth ≤ Json.maxDepth
  · rw [if_pos (decide_eq_true shallow), if_pos shallow, Option.bind_eq_bind, Option.bind_some,
      readsBack]
    rfl
  · rw [if_neg (decide_eq_true_iff.not.2 shallow), if_neg shallow]
    rfl

namespace Loadable

variable {α : Type} [Loadable α]

/-- How a text is loaded whose item is read unless it is nested too deep: as the item if the schema
accepts it, and else not, for the violation; and not at all if it is nested too deep. -/
structure Judges (text : String) (item : α) (depth : Nat) : Prop where
  accepts : depth ≤ Json.maxDepth → (ofText .json text = .ok item ↔ checkSchema item = .ok ())
  refuses : depth ≤ Json.maxDepth → ∀ {violation}, checkSchema item = .error violation →
    (ofText .json text : Except LoadError α) = .error (.schema violation)
  tooDeep : Json.maxDepth < depth →
    (ofText .json text : Except LoadError α) = .error (.malformed .json)

theorem judges_of_read {text : String} {item : α} {depth : Nat}
    (read : Readable.read? .json text = if depth ≤ Json.maxDepth then some item else none) :
    Judges text item depth := by
  refine ⟨fun shallow => ?_, fun shallow violation checked => ?_, fun deep => ?_⟩
  · rw [of_text_eq_ok_iff, read, if_pos shallow]
    exact and_iff_right rfl
  · rw [if_pos shallow] at read
    simp only [ofText, read, checked]
  · rw [if_neg (Nat.not_le.2 deep)] at read
    rw [ofText, read]

end Loadable

/-- Whatever is read from a document, of any kind, is written as a document that the same is read
from. A text in the brace format that is read as the written form of a topology or a scenario is
loaded as just that, if the schema accepts it and the form is not nested too deep. A finding comes
back if its time does. -/
theorem written_documents_read_back {value : Value} (inRange : value.InRange) :
    (∀ graph, Graph.decode value.toTree = .ok graph → Graph.codec.Keeps graph ∧
      ∀ text, Json.read? text = some graph.encode.toTree →
        Loadable.Judges text graph graph.encode.depth) ∧
    (∀ scenario, Scenario.decode value.toTree = .ok scenario → Scenario.codec.Keeps scenario ∧
      ∀ text, Json.read? text = some scenario.encode.toTree →
        Loadable.Judges text scenario scenario.encode.depth) ∧
    (∀ policy, Policy.decode value.toTree = .ok policy → Policy.codec.Keeps policy) ∧
    (∀ decision, Decision.decode value.toTree = .ok decision → Decision.codec.Keeps decision) ∧
    (∀ route, Route.decode value.toTree = .ok route → Route.codec.Keeps route) ∧
    (∀ verdict, Verdict.decode value.toTree = .ok verdict → Verdict.codec.Keeps verdict) ∧
    (∀ report, BlastReport.decode value.toTree = .ok report → BlastReport.codec.Keeps report) ∧
    (∀ report, PolicyReport.decode value.toTree = .ok report → PolicyReport.codec.Keeps report) ∧
    (∀ report, StructureReport.decode value.toTree = .ok report →
      StructureReport.codec.Keeps report) ∧
    (∀ event, Event.decode value.toTree = .ok event → Event.codec.Keeps event) ∧
    (∀ finding, Finding.decode value.toTree = .ok finding →
      Instant.read? finding.createdAt.render = some finding.createdAt →
        Finding.codec.Keeps finding) ∧
    (∀ metrics, Metrics.decode value.toTree = .ok metrics → Metrics.codec.Keeps metrics) := by
  refine ⟨?_, ?_, fun _ => Policy.faithful.keeps inRange, fun _ => Decision.faithful.keeps inRange,
    fun _ => Route.faithful.keeps inRange, fun _ => Verdict.faithful.keeps inRange,
    fun _ => BlastReport.faithful.keeps inRange, fun _ => PolicyReport.faithful.keeps inRange,
    fun _ => StructureReport.faithful.keeps inRange, fun _ => Event.faithful.keeps inRange,
    fun _ => Finding.keeps_of_read inRange, fun _ => Metrics.faithful.keeps inRange⟩
  · intro graph read
    have kept := Graph.faithful.keeps inRange read
    exact ⟨kept, fun _ written => Loadable.judges_of_read
      (Format.load_written kept.readsBack graph.measured written)⟩
  · intro scenario read
    have kept := Scenario.faithful.keeps inRange read
    exact ⟨kept, fun _ written => Loadable.judges_of_read
      (Format.load_written kept.readsBack scenario.measured written)⟩

namespace Terse

/-- A network as its reader takes it but as it is not written: a node with its kind as an object, an
absent text as nothing, a property twice, a link as a list, and a field that is passed over. -/
def document : Value :=
  .object [
    ("nodes", .list [.object [
      ("label", .text "A"),
      ("type", .object [("hacking-device", .null)]),
      ("id", .text "a"),
      ("os", .null),
      ("properties", .object [("b", .list [.natural 443]), ("a", .null), ("b", .bool true)])]]),
    ("links", .list [.list [.text "l", .text "a", .text "a", .text "wan"]]),
    ("comment", .text "passed over")]

def graph : Graph :=
  (Graph.empty.addNode (((Node.plain "a" .hackingDevice "A").withProperty "a" .null).withProperty
    "b" (.bool true))).addLink ((Link.plain "l" "a" "a").withKind .wan)

def findingDocument : Value :=
  .object [
    ("id", .text "f"), ("severity", .text "low"), ("title", .text "T"), ("description", .text ""),
    ("evidence", .object [("b", .text "2"), ("a", .text "1")]),
    ("createdAt", .text "1970-01-01 01:00:00+01:00")]

def finding : Finding :=
  { Observation.plain .low "T" "" with
    evidence := some (.object [("a", .text "1"), ("b", .text "2")])
    id := "f"
    runId := none
    createdAt := .epoch }

theorem document_in_range : document.InRange := by
  have port : (Number.whole 443).toFloat.isFinite = true := by decide +kernel
  exact ⟨⟨⟨trivial, ⟨trivial, trivial⟩, trivial, trivial,
    ⟨⟨port, trivial⟩, trivial, trivial, trivial⟩, trivial⟩, trivial⟩,
    ⟨⟨trivial, trivial, trivial, trivial, trivial⟩, trivial⟩, trivial, trivial⟩

theorem graph_legible : graph.encode.EveryNumber Json.Legible := by
  have zero : Json.Legible (.real 0.0) :=
    ⟨'0', ['.', '0'], by decide +kernel, Or.inr (by decide), by decide, by rfl⟩
  have thousand : Json.Legible (.real 1000.0) :=
    ⟨'1', ['0', '0', '0', '.', '0'], by decide +kernel, Or.inr (by decide), by decide, by rfl⟩
  exact ⟨⟨⟨trivial, trivial, trivial, trivial, trivial, trivial, ⟨trivial, trivial, trivial⟩,
    ⟨zero, zero, trivial⟩, trivial⟩, trivial⟩,
    ⟨⟨trivial, trivial, trivial, trivial, thousand, zero, zero, zero, trivial, trivial, trivial⟩,
      trivial⟩, trivial⟩

theorem finding_read : Finding.decode findingDocument.toTree = .ok finding := by
  have instant : Instant.read? "1970-01-01 01:00:00+01:00" = some .epoch := by decide
  have stamp : Instant.decode (.text "1970-01-01 01:00:00+01:00") = .ok .epoch := by
    refine bind_eq_ok_iff.2 ⟨_, rfl, ?_⟩
    rw [instant]
    rfl
  exact Finding.laid_out.read.2
    ⟨_, rfl, rfl, rfl, rfl, rfl, rfl, rfl, rfl, rfl, rfl, rfl, stamp⟩

end Terse

theorem written_documents_read_back_terse :
    Terse.document.InRange ∧ Graph.decode Terse.document.toTree = .ok Terse.graph ∧
      Graph.codec.Keeps Terse.graph ∧
      (Loadable.ofText .json (Json.render Terse.graph.encode) : Except LoadError Graph) =
        .ok Terse.graph ∧
      Terse.findingDocument.InRange ∧
      Finding.decode Terse.findingDocument.toTree = .ok Terse.finding ∧
      Instant.read? Terse.finding.createdAt.render = some Terse.finding.createdAt ∧
      Finding.codec.Keeps Terse.finding := by
  have inRange : Terse.findingDocument.InRange :=
    ⟨trivial, trivial, trivial, trivial, ⟨trivial, trivial, trivial⟩, trivial, trivial⟩
  have read : Graph.decode Terse.document.toTree = .ok Terse.graph := by rfl
  have stamped : Instant.read? Terse.finding.createdAt.render = some Terse.finding.createdAt := by
    decide
  obtain ⟨graphs, _⟩ := written_documents_read_back Terse.document_in_range
  obtain ⟨_, _, _, _, _, _, _, _, _, _, findings, _⟩ := written_documents_read_back inRange
  obtain ⟨kept, loads⟩ := graphs Terse.graph read
  have judges := loads _ (Json.read_render Terse.graph_legible)
  have loaded := (judges.accepts (by decide)).2 rfl
  exact ⟨Terse.document_in_range, read, kept, loaded, inRange, Terse.finding_read, stamped,
    findings Terse.finding Terse.finding_read stamped⟩

/-! Where the nesting ends -/

def nestedLists : Nat → Value
  | 0 => .list []
  | levels + 1 => .list [nestedLists levels]

theorem depth_nested_lists (levels : Nat) : (nestedLists levels).depth = levels + 1 := by
  induction levels with
  | zero => rfl
  | succ levels induction =>
      rw [nestedLists, Value.depth, Value.depthOfList, Value.depthOfList, induction]
      omega

theorem every_number_nested_lists (holds : Number → Prop) (levels : Nat) :
    (nestedLists levels).EveryNumber holds := by
  induction levels with
  | zero => trivial
  | succ levels induction => exact ⟨induction, trivial⟩

theorem normalize_nested_lists (levels : Nat) :
    (nestedLists levels).normalize = nestedLists levels := by
  induction levels with
  | zero => rfl
  | succ levels induction =>
      rw [nestedLists, Value.normalize, Value.normalizeList, induction]
      rfl

namespace Scenario

def nested (levels : Nat) : Scenario :=
  { plain "s" "S" "t" with options := some (Dictionary.empty.insert "p" (nestedLists levels)) }

theorem depth_encode_nested (levels : Nat) : (nested levels).encode.depth = levels + 3 := by
  change max 0 (max 0 (max 0 (max 1 (max 1 (max 1 (max 0 (max
    (max (nestedLists levels).depth 0 + 1) 0))))))) + 1 = levels + 3
  rw [depth_nested_lists]
  omega

theorem nested_every_number {holds : Number → Prop} (duration : holds (.whole 60000))
    (levels : Nat) : (nested levels).encode.EveryNumber holds :=
  ⟨trivial, trivial, trivial, trivial, trivial, trivial, duration,
    ⟨every_number_nested_lists holds levels, trivial⟩, trivial⟩

theorem nested_kept (levels : Nat) : codec.Keeps (nested levels) := by
  have lists : Codec.value.Keeps (nestedLists levels) :=
    Codec.Keeps.value (every_number_nested_lists _ levels) (normalize_nested_lists levels)
  have options : Codec.attributes.Keeps (Dictionary.empty.insert "p" (nestedLists levels)) := by
    rw [Codec.attributes_eq]
    apply Codec.Keeps.dictionary
    intro entry member
    obtain rfl := List.mem_singleton.1 member
    exact lists
  have duration : Codec.uint64.Keeps defaultDuration := .uint64 _
  refine laid_out.keeps ⟨.required (.text _), .required (.text _),
    .optional (fun _ held => (nomatch held)), .required (.text _), .withDefault .nil,
    .withDefault .nil, .withDefault .nil, .withDefault duration, .optional fun item held => ?_⟩
  obtain rfl := Option.some.inj held
  exact ⟨options, fun absent => nomatch absent⟩

theorem legible_duration : Json.Legible (.whole 60000) :=
  ⟨'6', ['0', '0', '0', '0'], by decide, Or.inr (by decide), by decide, rfl⟩

/-- The written form of a scenario that keeps to the schema is not loaded if it is nested deeper
than the reader follows. -/
theorem nested_not_loaded : (nested 125).encode.InRange ∧
    decode (nested 125).encode.toTree = .ok (nested 125) ∧
    (nested 125).checkSchema = .ok () ∧
    Json.read? (Json.render (nested 125).encode) = some (nested 125).encode.toTree ∧
    (Loadable.ofText .json (Json.render (nested 125).encode) : Except LoadError Scenario) =
      .error (.malformed .json) := by
  have kept := nested_kept 125
  have written := Json.read_render (nested_every_number legible_duration 125)
  have read : (Readable.read? .json (Json.render (nested 125).encode) : Option Scenario) =
      if (nested 125).encode.depth ≤ Json.maxDepth then some (nested 125) else none :=
    Format.load_written kept.readsBack (nested 125).measured written
  refine ⟨kept.inRange, kept.readsBack, rfl, written, (Loadable.judges_of_read read).tooDeep ?_⟩
  rw [depth_encode_nested]
  decide

end Scenario

end NetworkTwin
