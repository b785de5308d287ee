import NetworkTwin.Proofs.Routing.Shortest
import NetworkTwin.Topology.Matrix

/-!
The tables of all pairs. A row comes from one search for all nodes and a route from a search that
stops at its goal. Both give the route of the first walk, so the tables hold what asking for each
route would give.
-/

namespace NetworkTwin

namespace Graph

variable {graph : Graph} {source target : String}

/-- A search for all nodes gives the same routes as a search for each. -/
theorem explore_route_eq_find_path (declared : graph.declares source = true) :
    (graph.explore source none).route? target = graph.findPath source target := by
  apply Option.ext
  intro route
  rw [explore_route_eq_some_iff declared (Or.inl rfl), find_path_eq_some_iff]

theorem explore_has_settled_eq_find_path (declared : graph.declares source = true) :
    (graph.explore source none).hasSettled target = (graph.findPath source target).isSome := by
  rw [Bool.eq_iff_iff, explore_has_settled_iff declared (Or.inl rfl), find_path_is_some_iff]

/-- Whether a table has a row and a column for every declared node and for nothing else, and holds
given values. -/
structure Tabulates {β : Type} (graph : Graph) (matrix : Matrix β) (value : String → String → β) :
    Prop where
  rows : ∀ id, id ∈ matrix.keys ↔ graph.declares id = true
  columns : ∀ source row, matrix.get? source = some row →
    ∀ id, id ∈ row.keys ↔ graph.declares id = true
  entries : ∀ source target, graph.declares source = true → graph.declares target = true →
    (matrix.get? source).bind (·.get? target) = some (value source target)

theorem tabulate_eq {β : Type} (graph : Graph) (entry : String → Search → String → β) :
    graph.tabulate entry = Dictionary.ofList (graph.nodeIds.map fun source =>
      (source, Dictionary.ofList (graph.nodeIds.map fun target =>
        (target, entry source (graph.explore source none) target)))) := by
  simp only [tabulate, nodeIds, List.map_map]
  rfl

theorem tabulate_tabulates {β : Type} (graph : Graph) (entry : String → Search → String → β) :
    graph.Tabulates (graph.tabulate entry) fun source target =>
      entry source (graph.explore source none) target := by
  let row (source : String) : Dictionary β := Dictionary.ofList (graph.nodeIds.map fun target =>
    (target, entry source (graph.explore source none) target))
  have isDeclared (id : String) : id ∈ graph.nodeIds ↔ graph.declares id = true :=
    List.contains_iff_mem.symm
  have rowAt (source : String) : (graph.tabulate entry).get? source =
      if source ∈ graph.nodeIds then some (row source) else none := by
    rw [tabulate_eq]
    exact Dictionary.get?_ofList_map row graph.nodeIds source
  have entryAt (source target : String) : (row source).get? target =
      if target ∈ graph.nodeIds then some (entry source (graph.explore source none) target)
      else none :=
    Dictionary.get?_ofList_map _ graph.nodeIds target
  constructor
  · intro id
    rw [Dictionary.mem_keys_iff, rowAt, ← isDeclared]
    by_cases declared : id ∈ graph.nodeIds <;> simp [declared]
  · intro source found atSource id
    rw [rowAt] at atSource
    split at atSource
    · obtain rfl := Option.some.inj atSource
      rw [Dictionary.mem_keys_iff, entryAt, ← isDeclared]
      by_cases declared : id ∈ graph.nodeIds <;> simp [declared]
    · simp at atSource
  · intro source target sourceDeclared targetDeclared
    rw [rowAt, if_pos ((isDeclared source).2 sourceDeclared), Option.bind_some, entryAt,
      if_pos ((isDeclared target).2 targetDeclared)]

/-- The values matter at declared nodes only. -/
theorem Tabulates.congr {β : Type} {matrix : Matrix β} {value other : String → String → β}
    (tabulates : graph.Tabulates matrix value)
    (same : ∀ source target, graph.declares source = true → value source target =
      other source target) : graph.Tabulates matrix other where
  rows := tabulates.rows
  columns := tabulates.columns
  entries source target sourceDeclared targetDeclared := by
    rw [tabulates.entries source target sourceDeclared targetDeclared,
      same source target sourceDeclared]

/-- The latency of the route between two nodes: none to the node itself, and infinite where there
is no route. -/
def routeLatency (graph : Graph) (source target : String) : Float :=
  if source = target then 0.0
  else match graph.findPath source target with
    | some route => graph.pathLatency route.links
    | none => 1.0 / 0.0

/-- The tables hold what asking for the route between each two declared nodes would give. -/
theorem tables_agree_with_find_path (graph : Graph) :
    graph.Tabulates graph.reachability
        (fun source target => (graph.findPath source target).isSome) ∧
      graph.Tabulates graph.latencies graph.routeLatency := by
  constructor
  · refine (graph.tabulate_tabulates _).congr fun source target declared => ?_
    rw [explore_has_settled_eq_find_path declared]
    by_cases same : source = target
    · simp [same, findPath]
    · simp [same]
  · refine (graph.tabulate_tabulates _).congr fun source target declared => ?_
    rw [routeLatency]
    by_cases same : source = target
    · rw [if_pos same, if_pos same]
    · rw [if_neg same, if_neg same]
      cases found : graph.findPath source target <;>
        simp only [explore_route_eq_find_path declared, found]

theorem reachability_of_declared (sourceDeclared : graph.declares source = true)
    (targetDeclared : graph.declares target = true) :
    (graph.reachability.get? source).bind (·.get? target) =
      some (graph.findPath source target).isSome := by
  rw [reachability, (graph.tabulate_tabulates _).entries source target sourceDeclared
    targetDeclared, explore_has_settled_eq_find_path sourceDeclared]
  by_cases same : source = target
  · simp [same, findPath]
  · simp [same]

theorem reachability_eq_false_iff (sourceDeclared : graph.declares source = true)
    (targetDeclared : graph.declares target = true) :
    (graph.reachability.get? source).bind (·.get? target) = some false ↔
      graph.findPath source target = none := by
  rw [reachability_of_declared sourceDeclared targetDeclared]
  simp

end Graph

end NetworkTwin
