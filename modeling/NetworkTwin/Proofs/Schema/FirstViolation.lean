import NetworkTwin.Proofs.Doubles
import NetworkTwin.Proofs.Text.Occurrences

/-!
The first violation. A check of the schema stops at the first thing that is wrong. Beside it stands
the list of all that is wrong, as a reader finds it who goes on: nodes before links, each in document
order, and every element from its id on. The check accepts just where the list is empty, and it
reports the head of the list anywhere else.
-/

namespace NetworkTwin

/-- A finite number from zero up. -/
def IsFromZero (value : Float) : Prop := value.isFinite = true ∧ 0.0 ≤ value

instance (value : Float) : Decidable (IsFromZero value) := inferInstanceAs (Decidable (_ ∧ _))

def Node.violations (node : Node) : List SchemaViolation :=
  (if node.id = "" then [.emptyNodeId] else []) ++
    (repeatedBy (·.id) node.interfaces).map fun interface => .repeatedInterface node.id interface.id

def Link.quantities (link : Link) : List (LinkQuantity × Float) :=
  [(.latency, link.latency), (.bandwidth, link.bandwidth), (.jitter, link.jitter)]

def Link.violations (link : Link) : List SchemaViolation :=
  (if link.id = "" then [.emptyLinkId] else []) ++
    (if 0.0 ≤ link.loss ∧ link.loss ≤ 100.0 then [] else [.linkLoss link.id link.loss]) ++
    link.quantities.flatMap fun entry =>
      if IsFromZero entry.2 then [] else [.linkQuantity link.id entry.1 entry.2]

def Graph.violations (graph : Graph) : List SchemaViolation :=
  graph.nodes.flatMap Node.violations ++ graph.links.flatMap Link.violations

/-- What the schema asks of a topology. An interface may have the id of one of another node. -/
structure Graph.FitsSchema (graph : Graph) : Prop where
  nodes : ∀ node ∈ graph.nodes, node.id ≠ "" ∧ (node.interfaces.map (·.id)).Nodup
  links : ∀ link ∈ graph.links, link.id ≠ "" ∧ (0.0 ≤ link.loss ∧ link.loss ≤ 100.0) ∧
    IsFromZero link.latency ∧ IsFromZero link.bandwidth ∧ IsFromZero link.jitter

/-- What a check comes to that stops at the first violation. -/
def reportFirst : List SchemaViolation → Except SchemaViolation Unit
  | [] => .ok ()
  | violation :: _ => .error violation

section ReportFirst

variable {violations : List SchemaViolation}

theorem report_first_eq_ok_iff : reportFirst violations = .ok () ↔ violations = [] := by
  cases violations <;> simp [reportFirst]

theorem report_first_eq_error_iff {violation : SchemaViolation} :
    reportFirst violations = .error violation ↔ violations.head? = some violation := by
  cases violations <;> simp [reportFirst]

theorem report_first_append (first second : List SchemaViolation) :
    reportFirst (first ++ second) = (reportFirst first >>= fun _ => reportFirst second) := by
  cases first <;> rfl

theorem report_first_flat_map {α : Type} {check : α → Except SchemaViolation Unit}
    {found : α → List SchemaViolation} (checked : ∀ item, check item = reportFirst (found item))
    (items : List α) : items.forM check = reportFirst (items.flatMap found) := by
  induction items with
  | nil => rfl
  | cons item rest induction =>
      rw [List.forM, List.flatMap_cons, report_first_append, checked, induction]

theorem ensure_eq_report_first {condition : Bool} {good : Prop} [Decidable good]
    (same : condition = true ↔ good) (violation : SchemaViolation) :
    ensure condition violation = reportFirst (if good then [] else [violation]) := by
  unfold ensure
  by_cases holds : good
  · rw [if_pos holds, if_pos (same.2 holds)]
    rfl
  · rw [if_neg holds, if_neg (mt same.1 holds)]
    rfl

end ReportFirst

theorem is_quantity_iff {value : Float} : isQuantity value = true ↔ IsFromZero value := by
  rw [isQuantity, IsFromZero, Bool.and_eq_true]
  refine and_congr_right fun finite => ?_
  rw [zero_le_iff_not_lt finite, Bool.not_eq_true', decide_eq_false_iff_not]

theorem is_percentage_iff {loss : Float} :
    isPercentage loss = true ↔ 0.0 ≤ loss ∧ loss ≤ 100.0 := by
  rw [isPercentage, Bool.and_eq_true, decide_eq_true_eq, decide_eq_true_eq]

theorem not_is_empty_iff {text : String} : (!text.isEmpty) = true ↔ text ≠ "" := by
  simp

theorem Node.check_schema_eq (node : Node) : node.checkSchema = reportFirst node.violations := by
  have repeated : firstRepeated? [] (node.interfaces.map (·.id)) =
      ((repeatedBy (·.id) node.interfaces).head?).map (·.id) := by
    rw [first_repeated_eq_head, ← map_repeated_by, List.head?_map]
  unfold checkSchema violations
  rw [report_first_append, ensure_eq_report_first not_is_empty_iff, repeated, ite_not]
  refine congrArg _ (funext fun _ => ?_)
  cases repeatedBy (·.id) node.interfaces <;> rfl

theorem Link.check_schema_eq (link : Link) : link.checkSchema = reportFirst link.violations := by
  unfold checkSchema violations quantities
  simp only [List.append_assoc, List.flatMap_cons, List.flatMap_nil, List.append_nil,
    report_first_append, ensure_eq_report_first not_is_empty_iff,
    ensure_eq_report_first is_percentage_iff, ensure_eq_report_first is_quantity_iff, ite_not]

theorem Graph.check_schema_eq (graph : Graph) :
    graph.checkSchema = reportFirst graph.violations := by
  rw [checkSchema, violations, report_first_append, report_first_flat_map Node.check_schema_eq,
    report_first_flat_map Link.check_schema_eq]

theorem Node.violations_eq_nil_iff {node : Node} :
    node.violations = [] ↔ node.id ≠ "" ∧ (node.interfaces.map (·.id)).Nodup := by
  rw [violations, List.append_eq_nil_iff, List.map_eq_nil_iff, repeated_by_eq_nil_iff]
  simp

theorem Link.violations_eq_nil_iff {link : Link} :
    link.violations = [] ↔ link.id ≠ "" ∧ (0.0 ≤ link.loss ∧ link.loss ≤ 100.0) ∧
      IsFromZero link.latency ∧ IsFromZero link.bandwidth ∧ IsFromZero link.jitter := by
  simp [violations, quantities, and_assoc]

theorem Graph.violations_eq_nil_iff {graph : Graph} :
    graph.violations = [] ↔ graph.FitsSchema := by
  rw [violations, List.append_eq_nil_iff, List.flatMap_eq_nil_iff, List.flatMap_eq_nil_iff]
  simp only [Node.violations_eq_nil_iff, Link.violations_eq_nil_iff]
  exact ⟨fun ⟨nodes, links⟩ => ⟨nodes, links⟩, fun fits => ⟨fits.nodes, fits.links⟩⟩

/-- The schema check accepts exactly what fits the schema, and of anything else it reports the first
violation, with the message of that violation. -/
theorem Graph.check_schema_first_violation (graph : Graph) :
    (graph.checkSchema = .ok () ↔ graph.FitsSchema) ∧
      (∀ violation, graph.checkSchema = .error violation ↔
        graph.violations.head? = some violation) ∧
      ∀ text, graph.checkSchema.mapError (·.message) = .error text ↔
        (graph.violations.map (·.message)).head? = some text := by
  rw [check_schema_eq, report_first_eq_ok_iff, violations_eq_nil_iff]
  refine ⟨Iff.rfl, fun _ => report_first_eq_error_iff, fun text => ?_⟩
  cases graph.violations <;> simp [reportFirst, Except.mapError]

end NetworkTwin
