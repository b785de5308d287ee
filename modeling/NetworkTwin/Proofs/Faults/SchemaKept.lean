import NetworkTwin.Proofs.Faults.LastWrite
import NetworkTwin.Proofs.Schema.Acceptance
import NetworkTwin.Sample

/-!
The schema under faults. A topology and a scenario are checked apart, and then the faults of the one
write into the links of the other. Whatever they write, every link still has all that the schema asks
of it but perhaps its latency: the latency that a degradation sets is not looked at by the check of
the scenario. So the links still fit the schema if and only if the latencies that stay do.
-/

namespace NetworkTwin

theorem Link.FitsBesideLatency.suffer {link : Link} {fault : Fault}
    (fits : link.FitsBesideLatency) (accepted : fault.checkSchema = .ok ()) :
    (link.suffer fault).FitsBesideLatency := by
  rcases link.suffer_cases fault with same | failed | degraded
  · rw [same]
    exact fits
  · rw [failed]
    exact ⟨fits.named, fits.loss, fits.bandwidth, fits.jitter⟩
  · rw [degraded]
    refine ⟨fits.named, ?_, fits.bandwidth, fits.jitter⟩
    change isPercentage ((fault.params.getD ⟨none, none⟩).loss.getD link.loss) = true
    cases carried : fault.params with
    | none => exact fits.loss
    | some params =>
        cases set : params.loss with
        | none => simpa [set] using fits.loss
        | some loss =>
            have percentage := (Fault.check_schema_eq_ok_iff.1 accepted).2 params loss carried set
            simpa [set] using percentage

theorem good_latencies_strike_all_iff (good : Float → Prop) (faults : List Fault)
    {links : List Link} (before : ∀ link ∈ links, good link.latency) :
    (∀ link ∈ strikeAll faults links, good link.latency) ↔
      ∀ link ∈ links, ∀ latency ∈ lastSet? (·.latency) faults link.id, good latency := by
  induction links generalizing faults with
  | nil => simp [strike_all_nil]
  | cons first rest induction =>
      obtain ⟨goodFirst, goodRest⟩ := List.forall_mem_cons.1 before
      have here : good (faults.foldl Link.suffer first).latency ↔
          ∀ latency ∈ lastSet? (·.latency) faults first.id, good latency := by
        rw [Link.suffer_all_eq_settle, Link.settle, Link.lastHeard?, if_pos rfl]
        cases lastSet? (·.latency) faults first.id with
        | none => simpa using goodFirst
        | some latency => simp
      rw [strike_all_cons, List.forall_mem_cons, List.forall_mem_cons, here,
        induction _ goodRest]
      refine and_congr_right fun goodHere => forall₂_congr fun link _ => ?_
      rw [last_set_not_taken]
      by_cases same : first.id = link.id
      · -- A later link with the same id is left alone, and what was set has been judged before.
        rw [if_pos same, ← same]
        simpa using goodHere
      · rw [if_neg same]

namespace Graph

/-- Of a topology and a scenario that both pass, the faults leave everything in place that the
schema asks for but the latencies, and the topology still passes if and only if the last latency that
is set on each of its links is a quantity. -/
theorem inject_all_keeps_schema_iff {graph : Graph} {scenario : Scenario}
    (graphAccepted : graph.checkSchema = .ok ()) (scenarioAccepted : scenario.checkSchema = .ok ()) :
    (∀ link ∈ (graph.injectAll scenario.faults).links, link.FitsBesideLatency) ∧
      ((graph.injectAll scenario.faults).checkSchema = .ok () ↔
        ∀ link ∈ graph.links, ∀ latency ∈ lastSet? (·.latency) scenario.faults link.id,
          isQuantity latency = true) := by
  obtain ⟨nodes, links⟩ := check_schema_eq_ok_iff.1 graphAccepted
  have fit : ∀ link ∈ (graph.injectAll scenario.faults).links, link.FitsBesideLatency :=
    forall_mem_inject_all
      (fun fault member _ fits => fits.suffer (Scenario.fault_accepted scenarioAccepted member))
      (fun link member => (Link.check_schema_eq_ok_iff.1 (links link member)).1)
  have latencies := good_latencies_strike_all_iff (fun latency => isQuantity latency = true)
    scenario.faults (fun link member => (Link.check_schema_eq_ok_iff.1 (links link member)).2)
  refine ⟨fit, ?_⟩
  rw [check_schema_eq_ok_iff, nodes_inject_all, ← latencies, ← links_inject_all]
  constructor
  · rintro ⟨_, accepted⟩ link member
    exact (Link.check_schema_eq_ok_iff.1 (accepted link member)).2
  · intro quantities
    exact ⟨nodes, fun link member =>
      Link.check_schema_eq_ok_iff.2 ⟨fit link member, quantities link member⟩⟩

/-- A scenario that sets the latency of one link again and again. -/
def slowdown (latencies : List Float) : Scenario :=
  { Scenario.plain "slowdown" "Slow and slower" "routers" with
    faults := latencies.map fun latency =>
      { Fault.plain "slow" .linkDegraded "l1" with params := some ⟨some latency, none⟩ } }

theorem inject_all_keeps_schema_iff_slowdown :
    Sample.routerAndServer.checkSchema = .ok () ∧ (slowdown [-5.0, 250.0]).checkSchema = .ok () ∧
      (Sample.routerAndServer.injectAll (slowdown [-5.0, 250.0]).faults).checkSchema = .ok () := by
  have graphAccepted : Sample.routerAndServer.checkSchema = .ok () := rfl
  have scenarioAccepted : (slowdown [-5.0, 250.0]).checkSchema = .ok () := rfl
  refine ⟨graphAccepted, scenarioAccepted, ?_⟩
  -- The latency below zero does not stay.
  exact (inject_all_keeps_schema_iff graphAccepted scenarioAccepted).2.2 (by decide +kernel)

/-- A topology and a scenario that both pass, and a faulted topology that does not. -/
theorem inject_all_breaks_schema :
    Sample.routerAndServer.checkSchema = .ok () ∧ (slowdown [-5.0]).checkSchema = .ok () ∧
      (Sample.routerAndServer.injectAll (slowdown [-5.0]).faults).checkSchema =
        .error (.linkQuantity "l1" .latency (-5.0)) :=
  ⟨rfl, rfl, rfl⟩

end Graph

end NetworkTwin
