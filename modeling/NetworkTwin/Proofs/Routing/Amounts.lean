import NetworkTwin.Proofs.Doubles
import NetworkTwin.Proofs.Faults.LastWrite
import NetworkTwin.Proofs.Routing.Tables
import NetworkTwin.Proofs.Wire.Values

/-!
The entries of the table of latencies. If the latencies of the links are amounts, also those that
faults set, then all that the table holds are amounts: sums of them, or infinity where there is no
route.
-/

namespace NetworkTwin

namespace Graph

theorem forall_mem_tabulate {β : Type} {graph : Graph} {entry : String → Search → String → β}
    {holds : β → Prop} (each : ∀ source search target, holds (entry source search target)) :
    ∀ row ∈ (graph.tabulate entry).entries, ∀ cell ∈ row.2.entries, holds cell.2 := by
  intro row inTable cell inRow
  obtain ⟨source, _, rfl⟩ := List.mem_map.1 (Dictionary.mem_of_mem_of_list inTable)
  obtain ⟨target, _, rfl⟩ := List.mem_map.1 (Dictionary.mem_of_mem_of_list inRow)
  exact each _ _ _

def TakesAmounts (graph : Graph) : Prop := ∀ link ∈ graph.links, IsAmount link.latency

theorem is_amount_foldl {amounts : List Float} {start : Float} (ofStart : IsAmount start)
    (each : ∀ amount ∈ amounts, IsAmount amount) : IsAmount (amounts.foldl (· + ·) start) := by
  induction amounts generalizing start with
  | nil => exact ofStart
  | cons amount rest induction =>
      obtain ⟨ofFirst, ofRest⟩ := List.forall_mem_cons.1 each
      exact induction (ofStart.add ofFirst) ofRest

variable {graph : Graph}

theorem TakesAmounts.path_latency (takes : graph.TakesAmounts) (links : List String) :
    IsAmount (graph.pathLatency links) := by
  apply is_amount_foldl .zero
  intro amount member
  obtain ⟨id, _, found⟩ := List.mem_filterMap.1 member
  obtain ⟨link, atId, rfl⟩ := Option.map_eq_some_iff.1 found
  exact takes link (List.mem_of_find?_eq_some atId)

theorem TakesAmounts.latencies (takes : graph.TakesAmounts) :
    ∀ row ∈ graph.latencies.entries, ∀ cell ∈ row.2.entries, IsAmount cell.2 := by
  apply forall_mem_tabulate
  intro source search target
  split
  · exact .zero
  · split
    · exact takes.path_latency _
    · exact .infinity

theorem TakesAmounts.inject_all (takes : graph.TakesAmounts) {faults : List Fault}
    (set : ∀ fault ∈ faults, ∀ params ∈ fault.params, ∀ latency ∈ params.latency,
      IsAmount latency) : (graph.injectAll faults).TakesAmounts := by
  apply forall_mem_inject_all _ takes
  intro fault member link ofLink
  rw [Link.latency_suffer]
  cases here : fault.sets? (·.latency) link.id with
  | none => exact ofLink
  | some latency =>
      unfold Fault.sets? at here
      split at here
      · obtain ⟨params, given, sets⟩ := Option.bind_eq_some_iff.1 here
        exact set fault member params given latency sets
      · cases here

theorem latency_of_unreachable {source target : String}
    (unreachable : (graph.reachability.get? source).bind (·.get? target) = some false) :
    (graph.latencies.get? source).bind (·.get? target) = some (1.0 / 0.0) := by
  have reachable := graph.tabulate_tabulates fun source search target =>
    source == target || search.hasSettled target
  obtain ⟨row, atSource, atTarget⟩ := Option.bind_eq_some_iff.1 unreachable
  have sourceDeclared : graph.declares source = true := by
    rw [← reachable.rows, Dictionary.mem_keys_iff]
    exact Option.isSome_of_eq_some atSource
  have targetDeclared : graph.declares target = true := by
    rw [← reachable.columns source row atSource, Dictionary.mem_keys_iff]
    exact Option.isSome_of_eq_some atTarget
  have noRoute := (reachability_eq_false_iff sourceDeclared targetDeclared).1 unreachable
  have different : source ≠ target := by
    rintro rfl
    rw [findPath, if_pos rfl] at noRoute
    cases noRoute
  rw [latencies, (graph.tabulate_tabulates _).entries source target sourceDeclared targetDeclared,
    if_neg different, explore_route_eq_find_path sourceDeclared, noRoute]

end Graph

end NetworkTwin
