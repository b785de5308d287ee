import NetworkTwin.Scenario.Basic

/-!
What the schema checks accept. A check goes through its conditions in order and stops at the first
that is violated, so it accepts what violates none of them.
-/

namespace NetworkTwin

theorem checks_eq_ok_iff {ε : Type} {first second : Except ε Unit} :
    (first >>= fun _ => second) = .ok () ↔ first = .ok () ∧ second = .ok () := by
  cases first with
  | error violation =>
      constructor
      · intro accepted
        cases accepted
      · rintro ⟨accepted, _⟩
        cases accepted
  | ok done => exact ⟨fun accepted => ⟨rfl, accepted⟩, fun accepted => accepted.2⟩

theorem for_m_eq_ok_iff {α ε : Type} {check : α → Except ε Unit} {items : List α} :
    items.forM check = .ok () ↔ ∀ item ∈ items, check item = .ok () := by
  induction items with
  | nil => simp [List.forM, pure, Except.pure]
  | cons item rest induction =>
      rw [List.forM, checks_eq_ok_iff, induction, List.forall_mem_cons]

theorem ensure_eq_ok_iff {condition : Bool} {violation : SchemaViolation} :
    ensure condition violation = .ok () ↔ condition = true := by
  cases condition <;> simp [ensure]

/-- What the schema asks of a link, apart from its latency. -/
structure Link.FitsBesideLatency (link : Link) : Prop where
  named : link.id ≠ ""
  loss : isPercentage link.loss = true
  bandwidth : isQuantity link.bandwidth = true
  jitter : isQuantity link.jitter = true

theorem Link.check_schema_eq_ok_iff {link : Link} :
    link.checkSchema = .ok () ↔
      link.FitsBesideLatency ∧ isQuantity link.latency = true := by
  simp only [Link.checkSchema, checks_eq_ok_iff, ensure_eq_ok_iff]
  constructor
  · rintro ⟨named, loss, latency, bandwidth, jitter⟩
    exact ⟨⟨by simpa using named, loss, bandwidth, jitter⟩, latency⟩
  · rintro ⟨⟨named, loss, bandwidth, jitter⟩, latency⟩
    exact ⟨by simpa using named, loss, latency, bandwidth, jitter⟩

theorem Graph.check_schema_eq_ok_iff {graph : Graph} :
    graph.checkSchema = .ok () ↔
      (∀ node ∈ graph.nodes, node.checkSchema = .ok ()) ∧
        ∀ link ∈ graph.links, link.checkSchema = .ok () := by
  rw [Graph.checkSchema, checks_eq_ok_iff, for_m_eq_ok_iff, for_m_eq_ok_iff]

/-- A fault needs a target, and the loss that it sets, if it sets one, has to be in percent. Nothing
is asked of the latency that it sets. -/
theorem Fault.check_schema_eq_ok_iff {fault : Fault} :
    fault.checkSchema = .ok () ↔
      fault.target ≠ "" ∧
        ∀ params loss, fault.params = some params → params.loss = some loss →
          isPercentage loss = true := by
  rw [Fault.checkSchema, checks_eq_ok_iff, ensure_eq_ok_iff]
  refine and_congr (by simp) ?_
  cases set : fault.params.bind (·.loss) with
  | none =>
      refine ⟨fun _ params loss given lost => ?_, fun _ => rfl⟩
      simp [given, lost] at set
  | some loss =>
      obtain ⟨params, given, lost⟩ := Option.bind_eq_some_iff.1 set
      dsimp only
      rw [ensure_eq_ok_iff]
      refine ⟨fun percentage params' loss' given' lost' => ?_, fun each => each params loss given lost⟩
      obtain rfl := Option.some.inj (given.symm.trans given')
      obtain rfl := Option.some.inj (lost.symm.trans lost')
      exact percentage

theorem Scenario.fault_accepted {scenario : Scenario} (accepted : scenario.checkSchema = .ok ())
    {fault : Fault} (member : fault ∈ scenario.faults) : fault.checkSchema = .ok () := by
  rw [Scenario.checkSchema, checks_eq_ok_iff, checks_eq_ok_iff, for_m_eq_ok_iff,
    for_m_eq_ok_iff] at accepted
  exact accepted.2.2 fault member

end NetworkTwin
