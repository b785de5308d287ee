import NetworkTwin.Scenario.Wire
import Mathlib.Data.List.Basic

/-!
How deep written forms are nested, as far as a typed reading looks. A written form holds nothing but
fields that are known, so the reading looks at all of it, and its depth is that of the value.
-/

namespace NetworkTwin

namespace Shape

/-- Whether the shape meets all the nesting of a value. -/
def Measures (shape : Shape) (value : Value) : Prop := shape.depth value.toTree = value.depth

namespace Measures

variable {shape : Shape}

mutual

theorem whole : (value : Value) → Shape.whole.Measures value
  | .null | .bool _ | .number _ | .text _ => rfl
  | .list items => congrArg (· + 1) (whole_items items 0)
  | .object entries => congrArg (· + 1) (whole_entries entries)

theorem whole_items : (items : List Value) → (place : Nat) →
    Shape.whole.depthOfItems place (Value.toTrees items) = Value.depthOfList items
  | [], _ => rfl
  | item :: rest, place => congrArg₂ max (whole item) (whole_items rest (place + 1))

theorem whole_entries : (entries : List (String × Value)) →
    Shape.whole.depthOfEntries (Value.toTreeEntries entries) = Value.depthOfEntries entries
  | [] => rfl
  | (_, value) :: rest => congrArg₂ max (whole value) (whole_entries rest)

end

theorem list {items : List Value} (each : ∀ item ∈ items, shape.Measures item) :
    (Shape.list shape).Measures (.list items) := by
  have counted (place : Nat) :
      (Shape.list shape).depthOfItems place (Value.toTrees items) = Value.depthOfList items := by
    induction items generalizing place with
    | nil => rfl
    | cons item rest induction =>
        exact congrArg₂ max (each item List.mem_cons_self)
          (induction (fun other member => each other (List.mem_cons_of_mem item member)) _)
  exact congrArg (· + 1) (counted 0)

theorem object {fields : List (String × Shape)} {entries : List (String × Value)}
    (each : ∀ entry ∈ entries, ((Shape.record fields).entry entry.1).Measures entry.2) :
    (Shape.record fields).Measures (.object entries) := by
  have counted : (Shape.record fields).depthOfEntries (Value.toTreeEntries entries) =
      Value.depthOfEntries entries := by
    induction entries with
    | nil => rfl
    | cons entry rest induction =>
        exact congrArg₂ max (each entry List.mem_cons_self)
          (induction fun other member => each other (List.mem_cons_of_mem entry member))
  exact congrArg (· + 1) counted

theorem record {fields : List (String × Shape)} {written : List (String × Option Value)}
    (each : ∀ field ∈ written, ∀ value ∈ field.2,
      ((Shape.record fields).entry field.1).Measures value) :
    (Shape.record fields).Measures (Value.record written) := by
  refine object fun entry member => ?_
  obtain ⟨field, given, present⟩ := List.mem_filterMap.1 member
  obtain ⟨value, held, rfl⟩ := Option.map_eq_some_iff.1 present
  exact each field given value held

end Measures

theorem entry_flat {names : List String} {name : String} (known : name ∈ names) :
    (flat names).entry name = .whole := by
  induction names with
  | nil => cases known
  | cons first rest induction =>
      rw [flat, entry, List.map_cons, Entries.lookup_cons_eq]
      split
      · rfl
      · rename_i differs
        exact induction (List.mem_of_ne_of_mem differs known)

/-- A record whose known fields are all looked at in full, and written in their order. -/
theorem Measures.flat {names : List String} {written : List (String × Option Value)}
    (named : written.map (·.1) = names) : (Shape.flat names).Measures (Value.record written) := by
  refine .record fun field given value _ => ?_
  have known : field.1 ∈ names := named ▸ List.mem_map_of_mem given
  have whole := Measures.whole value
  rw [← entry_flat known] at whole
  exact whole

end Shape

/-! Topologies -/

@[simp] theorem Interface.measured (interface : Interface) : shape.Measures interface.encode :=
  .flat rfl

@[simp] theorem Position.measured (position : Position) : shape.Measures position.encode :=
  .flat rfl

@[simp] theorem Node.measured (node : Node) : shape.Measures node.encode := by
  have interfaces : (Shape.list Interface.shape).Measures
      (.list (node.interfaces.map Interface.encode)) :=
    .list (List.forall_mem_map.2 fun interface _ => interface.measured)
  refine .record ?_
  simp [Shape.entry, Entries.lookup_cons_eq, Shape.Measures.whole, interfaces]

@[simp] theorem Link.measured (link : Link) : shape.Measures link.encode := .flat rfl

@[simp] theorem GraphMetadata.measured (metadata : GraphMetadata) :
    shape.Measures metadata.encode := .flat rfl

theorem Graph.measured (graph : Graph) : shape.Measures graph.encode := by
  have nodes : (Shape.list Node.shape).Measures (.list (graph.nodes.map Node.encode)) :=
    .list (List.forall_mem_map.2 fun node _ => node.measured)
  have links : (Shape.list Link.shape).Measures (.list (graph.links.map Link.encode)) :=
    .list (List.forall_mem_map.2 fun link _ => link.measured)
  refine .record ?_
  simp [Shape.entry, Entries.lookup_cons_eq, nodes, links]

/-! Scenarios -/

@[simp] theorem Flow.measured (flow : Flow) : shape.Measures flow.encode := .flat rfl

@[simp] theorem FaultParams.measured (params : FaultParams) : shape.Measures params.encode :=
  .flat rfl

@[simp] theorem Fault.measured (fault : Fault) : shape.Measures fault.encode := by
  refine .record ?_
  simp [Shape.entry, Entries.lookup_cons_eq, Shape.Measures.whole]

@[simp] theorem AttackEvent.measured (attack : AttackEvent) : shape.Measures attack.encode :=
  .flat rfl

theorem Scenario.measured (scenario : Scenario) : shape.Measures scenario.encode := by
  have flows : (Shape.list Flow.shape).Measures (.list (scenario.flows.map Flow.encode)) :=
    .list (List.forall_mem_map.2 fun flow _ => flow.measured)
  have faults : (Shape.list Fault.shape).Measures (.list (scenario.faults.map Fault.encode)) :=
    .list (List.forall_mem_map.2 fun fault _ => fault.measured)
  have attacks : (Shape.list AttackEvent.shape).Measures
      (.list (scenario.attacks.map AttackEvent.encode)) :=
    .list (List.forall_mem_map.2 fun attack _ => attack.measured)
  refine .record ?_
  simp [Shape.entry, Entries.lookup_cons_eq, Shape.Measures.whole, flows, faults, attacks]

end NetworkTwin
