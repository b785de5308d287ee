import NetworkTwin.Proofs.Faults.Strike
import NetworkTwin.Proofs.Topology.Wiring
import NetworkTwin.Topology.Structure

/-!
Faults and the cabling. The structural report, the exposure checks and the blast radius read no more of
a topology than its cabling: the nodes, and which link lies between which ends. Faults write into
links, but never there, so none of the three depends on them.
-/

namespace NetworkTwin

/-- The link as it was laid: its id and its ends, and all else as it is by default. -/
def Link.laid (link : Link) : Link := .plain link.id link.source link.target

theorem Link.laid_keeps_wiring : KeepsWiring laid := ⟨fun _ => rfl, fun _ => Or.inl ⟨rfl, rfl⟩⟩

theorem Link.laid_suffer (link : Link) (fault : Fault) : (link.suffer fault).laid = link.laid := by
  rcases link.suffer_cases fault with same | failed | degraded
  · rw [same]
  · rw [failed]
    rfl
  · rw [degraded]
    rfl

theorem Fault.map_laid_strike (fault : Fault) (links : List Link) :
    (fault.strike links).map Link.laid = links.map Link.laid := by
  induction links with
  | nil => rfl
  | cons link rest induction =>
      rw [strike, List.map_cons, List.map_cons, Link.laid_suffer]
      split
      · rfl
      · rw [induction]

namespace Graph

/-- The topology with nothing known of its links but how they are laid. -/
def cabling (graph : Graph) : Graph := ⟨graph.nodes, graph.links.map Link.laid, none⟩

theorem cabling_inject (graph : Graph) (fault : Fault) :
    (graph.inject fault).cabling = graph.cabling := by
  rw [cabling, cabling, nodes_inject, links_inject, Fault.map_laid_strike]

theorem cabling_inject_all (graph : Graph) (faults : List Fault) :
    (graph.injectAll faults).cabling = graph.cabling := by
  unfold injectAll
  induction faults generalizing graph with
  | nil => rfl
  | cons fault rest induction => rw [List.foldl_cons, induction, cabling_inject]

variable (graph : Graph)

/-! What is read of the cabling is what is read of the topology. -/

theorem link_ends_cabling : graph.cabling.linkEnds = graph.linkEnds := by
  rw [linkEnds, linkEnds, cabling, List.flatMap_map]
  rfl

theorem validate_cabling : graph.cabling.validate = graph.validate := by
  have dangling : graph.cabling.links.flatMap graph.cabling.danglingErrors =
      graph.links.flatMap graph.danglingErrors := by
    rw [cabling, List.flatMap_map]
    rfl
  have isolated : graph.cabling.isolationWarnings = graph.isolationWarnings := by
    rw [isolationWarnings, isolationWarnings, link_ends_cabling]
    rfl
  have points : graph.cabling.failurePoints = graph.failurePoints := by
    rw [failurePoints, failurePoints, link_ends_cabling]
  have warned : graph.cabling.failurePointWarnings = graph.failurePointWarnings := by
    rw [failurePointWarnings, failurePointWarnings, points]
    rfl
  rw [validate, validate, dangling, isolated, warned]
  rfl

theorem exposures_cabling : graph.cabling.exposures = graph.exposures :=
  Link.laid_keeps_wiring.exposures graph

theorem blast_radius_cabling (node : String) :
    graph.cabling.blastRadius node = graph.blastRadius node :=
  Link.laid_keeps_wiring.blast_radius graph node

variable (faults : List Fault)

theorem validate_inject_all : (graph.injectAll faults).validate = graph.validate := by
  rw [← validate_cabling, cabling_inject_all, validate_cabling]

theorem exposures_inject_all : (graph.injectAll faults).exposures = graph.exposures := by
  rw [← exposures_cabling, cabling_inject_all, exposures_cabling]

theorem blast_radius_inject_all (node : String) :
    (graph.injectAll faults).blastRadius node = graph.blastRadius node := by
  rw [← blast_radius_cabling, cabling_inject_all, blast_radius_cabling]

end Graph

end NetworkTwin
