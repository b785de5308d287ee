import NetworkTwin.Proofs.Faults.Cabling
import NetworkTwin.Proofs.Routing.Congruence
import NetworkTwin.Run.Attack

/-!
What works in a topology and what only describes it. The operating system of a node, say, or the
bandwidth of a link can be read by people; no analysis, no route and no table depends on it. Faults
write a loss into links, which is of the same sort, so that a description stays one under any
faults.
-/

namespace NetworkTwin

def Node.operative (node : Node) : Node :=
  { node with os := none, version := none, interfaces := [], position := ⟨0.0, 0.0⟩ }

def Link.operative (link : Link) : Link :=
  { link with
    kind := .ethernet, bandwidth := 0.0, loss := 0.0, jitter := 0.0, canFail := false,
    label := none }

theorem Link.operative_keeps_working : KeepsWorking operative where
  id _ := rfl
  ends _ := Or.inl ⟨rfl, rfl⟩
  failed _ := rfl
  latency _ := rfl

/-- The fault with nothing said of what only describes it: its id, how long it lasts, and the loss
that it brings. -/
def Fault.operative (fault : Fault) : Fault :=
  { fault with
    id := "", duration := none, params := some ⟨fault.params.bind (·.latency), none⟩ }

namespace Graph

def mapNodes (change : Node → Node) (graph : Graph) : Graph :=
  { graph with nodes := graph.nodes.map change }

/-- The topology with nothing said of what only describes it or its parts. -/
def operative (graph : Graph) : Graph :=
  ⟨graph.nodes.map Node.operative, graph.links.map Link.operative, none⟩

end Graph

/-! Faults do the same to what works, whatever the description. -/

theorem Link.operative_suffer (link : Link) (fault : Fault) :
    (link.suffer fault).operative = link.operative.suffer fault.operative := by
  unfold suffer
  cases kind : fault.kind with
  | linkDown =>
      simp only [Fault.operative, kind]
      exact apply_ite Link.operative _ _ _
  | linkDegraded =>
      simp only [Fault.operative, kind]
      refine (apply_ite Link.operative _ _ _).trans ?_
      cases fault.params <;> rfl
  | nodeDown =>
      simp only [Fault.operative, kind]
      exact apply_ite Link.operative _ _ _

theorem Fault.map_operative_strike (fault : Fault) (links : List Link) :
    (fault.strike links).map Link.operative =
      fault.operative.strike (links.map Link.operative) := by
  induction links with
  | nil => rfl
  | cons link rest induction =>
      rw [strike, List.map_cons, List.map_cons, strike, Link.operative_suffer,
        apply_ite (List.map Link.operative), induction]
      rfl

namespace Graph

theorem operative_inject (graph : Graph) (fault : Fault) :
    (graph.inject fault).operative = graph.operative.inject fault.operative := by
  rw [inject_eq, inject_eq, operative, Fault.map_operative_strike]
  rfl

theorem operative_inject_all (graph : Graph) (faults : List Fault) :
    (graph.injectAll faults).operative =
      graph.operative.injectAll (faults.map Fault.operative) := by
  unfold injectAll
  induction faults generalizing graph with
  | nil => rfl
  | cons fault rest induction =>
      rw [List.foldl_cons, induction, operative_inject]
      rfl

variable (graph : Graph)

/-! What is read of what works is what is read of the topology. -/

theorem node_ids_operative : graph.operative.nodeIds = graph.nodeIds := by
  rw [nodeIds, nodeIds, operative, List.map_map]
  rfl

theorem declares_operative (id : String) : graph.operative.declares id = graph.declares id := by
  rw [declares, declares, node_ids_operative]

theorem routed_alike_operative : graph.operative.RoutedAlike graph :=
  Link.operative_keeps_working.routed_alike rfl graph.declares_operative

theorem tags_operative : graph.operative.tags = graph.tags := by
  rw [tags, tags, operative, List.map_map]
  rfl

theorem firewall_on_operative (path : List String) :
    graph.operative.firewallOn? path = (graph.firewallOn? path).map Node.operative := by
  rw [firewallOn?, firewallOn?, operative, List.find?_map]
  rfl

theorem resolve_attack_operative (attack : AttackEvent) :
    graph.operative.resolveAttack attack = graph.resolveAttack attack := by
  unfold resolveAttack
  cases attack.target with
  | none => rfl
  | some target =>
      dsimp only
      rw [graph.routed_alike_operative.findPath]
      cases graph.findPath attack.source target with
      | none => rfl
      | some route =>
          dsimp only
          rw [firewall_on_operative]
          cases graph.firewallOn? route.path <;> rfl

/-! The analyses read the cabling. Between the cabling of what works and that of the topology only
the descriptions of the nodes differ. -/

theorem cabling_operative : graph.operative.cabling = graph.cabling.mapNodes Node.operative := by
  rw [cabling, operative, List.map_map]
  rfl

theorem node_map_nodes_operative (id : String) :
    (graph.mapNodes Node.operative).node? id = (graph.node? id).map Node.operative := by
  rw [node?, node?, mapNodes, List.find?_map]
  rfl

theorem validate_map_nodes_operative :
    (graph.mapNodes Node.operative).validate = graph.validate := by
  have ids : (graph.mapNodes Node.operative).nodeIds = graph.nodeIds := by
    rw [nodeIds, nodeIds, mapNodes, List.map_map]
    rfl
  have repeated :
      (graph.mapNodes Node.operative).repeatedNodeErrors = graph.repeatedNodeErrors := by
    rw [repeatedNodeErrors, repeatedNodeErrors, ids]
  have dangling : (graph.mapNodes Node.operative).danglingErrors = graph.danglingErrors := by
    funext link
    unfold danglingErrors
    simp only [declares, ids]
    rfl
  have isolated : (graph.mapNodes Node.operative).isolationWarnings = graph.isolationWarnings := by
    simp only [isolationWarnings, mapNodes, List.length_map, List.filter_map, List.map_map]
    rfl
  have warned :
      (graph.mapNodes Node.operative).failurePointWarnings = graph.failurePointWarnings := by
    unfold failurePointWarnings
    refine List.map_congr_left fun id _ => ?_
    rw [node_map_nodes_operative]
    cases graph.node? id <;> rfl
  rw [validate, validate, repeated, dangling, isolated, warned]
  rfl

theorem exposures_map_nodes_operative :
    (graph.mapNodes Node.operative).exposures = graph.exposures := by
  have guest : (graph.mapNodes Node.operative).isGuest = graph.isGuest := by
    funext id
    rw [isGuest, isGuest, node_map_nodes_operative]
    cases graph.node? id <;> rfl
  have guestLinks : (graph.mapNodes Node.operative).guestLinks = graph.guestLinks := by
    funext node
    rw [Graph.guestLinks, Graph.guestLinks, guest]
    rfl
  have checked (node : Node) :
      (graph.mapNodes Node.operative).guestCheck node.operative = graph.guestCheck node := by
    unfold guestCheck
    rw [guestLinks]
    rfl
  unfold exposures
  change (graph.nodes.map Node.operative).flatMap _ = _
  rw [List.flatMap_map]
  simp only [checked]
  rfl

theorem blast_radius_map_nodes_operative (node : String) :
    (graph.mapNodes Node.operative).blastRadius node = graph.blastRadius node := by
  have impact (affected : List String) :
      (graph.mapNodes Node.operative).impact node affected = graph.impact node affected := by
    have found := funext graph.node_map_nodes_operative
    unfold Graph.impact
    rw [found, List.map_filterMap, List.map_filterMap, mapNodes, List.filter_map, List.length_map]
    simp only [Option.map_map]
    rfl
  unfold blastRadius
  dsimp only
  rw [impact]
  simp only [declares, nodeIds, mapNodes, List.map_map]
  rfl

theorem validate_operative : graph.operative.validate = graph.validate := by
  rw [← validate_cabling, cabling_operative, validate_map_nodes_operative, validate_cabling]

theorem exposures_operative : graph.operative.exposures = graph.exposures := by
  rw [← exposures_cabling, cabling_operative, exposures_map_nodes_operative, exposures_cabling]

theorem blast_radius_operative (node : String) :
    graph.operative.blastRadius node = graph.blastRadius node := by
  rw [← blast_radius_cabling, cabling_operative, blast_radius_map_nodes_operative,
    blast_radius_cabling]

end Graph

end NetworkTwin
