import NetworkTwin.Proofs.Wire.Records
import NetworkTwin.Topology.Wire

/-!
Topologies survive being written: whatever a document says of a network, its written form says the
same.
-/

namespace NetworkTwin

def Codec.attributes : Codec (Dictionary Value) := ⟨Tree.asAttributes, Value.ofAttributes⟩

theorem Codec.attributes_eq : attributes = Codec.value.dictionary := by
  have written : Value.ofAttributes =
      fun items => .object (items.entries.map fun entry => (entry.1, id entry.2)) := by
    funext items
    exact congrArg Value.object (List.map_id' items.entries).symm
  rw [attributes, written]
  rfl

theorem Codec.Faithful.attributes : attributes.Faithful :=
  attributes_eq ▸ Codec.Faithful.value.dictionary

theorem Codec.Keeps.noAttributes : attributes.Keeps .empty := ⟨trivial, rfl⟩

theorem NodeKind.of_name_name (kind : NodeKind) : ofName? kind.name = some kind := by
  cases kind <;> decide +kernel

theorem LinkKind.of_name_name (kind : LinkKind) : ofName? kind.name = some kind := by
  cases kind <;> decide +kernel

def Severity.codec : Codec Severity := ⟨decode, encode⟩

theorem Severity.faithful : Severity.codec.Faithful := .choice Severity.ofName?_name

def NodeKind.codec : Codec NodeKind := ⟨decode, encode⟩

theorem NodeKind.faithful : NodeKind.codec.Faithful := .choice of_name_name

def LinkKind.codec : Codec LinkKind := ⟨decode, encode⟩

theorem LinkKind.faithful : LinkKind.codec.Faithful := .choice of_name_name

def Interface.codec : Codec Interface := ⟨decode, encode⟩

def Interface.layout : List (Slot Interface) := [
  .required "id" .text (·.id),
  .required "name" .text (·.name),
  .optional "ipAddress" .text (·.ipAddress),
  .optional "subnet" .text (·.subnet),
  .optional "macAddress" .text (·.macAddress),
  .withDefault "enabled" .bool true (·.enabled)]

theorem Interface.laid_out : LaidOut Interface.codec Interface.layout where
  distinct := by decide
  written _ := rfl
  read {_ record} := by
    cases record
    -- Each field is read once, and what is read stands in the record.
    simp only [Interface.codec, Interface.decode, bind_eq_ok_iff, pure_eq_ok_iff,
      Interface.mk.injEq, existsAndEq, and_true]
    exact Iff.rfl

theorem Interface.faithful : Interface.codec.Faithful :=
  laid_out.faithful fun _ =>
    ⟨.required .text, .required .text, .optional .text, .optional .text, .optional .text,
      .withDefault .bool (.bool true)⟩

def Position.codec : Codec Position := ⟨decode, encode⟩

def Position.layout : List (Slot Position) := [
  .required "x" .real (·.x),
  .required "y" .real (·.y)]

theorem Position.laid_out : LaidOut Position.codec Position.layout where
  distinct := by decide
  written _ := rfl
  read {_ record} := by
    cases record
    simp only [Position.codec, Position.decode, bind_eq_ok_iff, pure_eq_ok_iff, Position.mk.injEq,
      existsAndEq, and_true]
    exact Iff.rfl

theorem Position.faithful : Position.codec.Faithful :=
  laid_out.faithful fun _ =>
    ⟨.required .real, .required .real⟩

theorem Position.keeps {position : Position} (finiteX : position.x.isFinite = true)
    (finiteY : position.y.isFinite = true) : codec.Keeps position :=
  laid_out.keeps ⟨.required (.real finiteX), .required (.real finiteY)⟩

def Node.codec : Codec Node := ⟨decode, encode⟩

def Node.layout : List (Slot Node) := [
  .required "id" .text (·.id),
  .required "type" NodeKind.codec (·.kind),
  .required "label" .text (·.label),
  .optional "role" .text (·.role),
  .optional "os" .text (·.os),
  .optional "version" .text (·.version),
  .withDefault "tags" (.list .text) [] (·.tags),
  .withDefault "riskCriticality" Severity.codec .medium (·.criticality),
  .withDefault "interfaces" (.list Interface.codec) [] (·.interfaces),
  .withDefault "properties" .attributes .empty (·.properties),
  .withDefault "position" Position.codec ⟨0.0, 0.0⟩ (·.position)]

theorem Node.laid_out : LaidOut Node.codec Node.layout where
  distinct := by decide
  written _ := rfl
  read {_ record} := by
    cases record
    simp only [Node.codec, Node.decode, bind_eq_ok_iff, pure_eq_ok_iff, Node.mk.injEq, existsAndEq,
      and_true]
    exact Iff.rfl

theorem Node.faithful : Node.codec.Faithful :=
  laid_out.faithful fun _ =>
    ⟨.required .text, .required NodeKind.faithful, .required .text, .optional .text,
      .optional .text, .optional .text, .withDefault (.list .text) .nil,
      .withDefault Severity.faithful (.choice (Severity.ofName?_name _)),
      .withDefault (.list Interface.faithful) .nil, .withDefault .attributes .noAttributes,
      .withDefault Position.faithful (Position.keeps (by decide +kernel) (by decide +kernel))⟩

def Link.codec : Codec Link := ⟨decode, encode⟩

def Link.layout : List (Slot Link) := [
  .required "id" .text (·.id),
  .required "source" .text (·.source),
  .required "target" .text (·.target),
  .required "type" LinkKind.codec (·.kind),
  .withDefault "bandwidth" .real 1000.0 (·.bandwidth),
  .withDefault "latency" .real 0.0 (·.latency),
  .withDefault "loss" .real 0.0 (·.loss),
  .withDefault "jitter" .real 0.0 (·.jitter),
  .withDefault "canFail" .bool false (·.canFail),
  .withDefault "failed" .bool false (·.failed),
  .optional "label" .text (·.label)]

theorem Link.laid_out : LaidOut Link.codec Link.layout where
  distinct := by decide
  written _ := rfl
  read {_ record} := by
    cases record
    simp only [Link.codec, Link.decode, bind_eq_ok_iff, pure_eq_ok_iff, Link.mk.injEq, existsAndEq,
      and_true]
    exact Iff.rfl

theorem Link.faithful : Link.codec.Faithful :=
  laid_out.faithful fun _ =>
    ⟨.required .text, .required .text, .required .text, .required LinkKind.faithful,
      .withDefault .real (.real (by decide +kernel)),
      .withDefault .real (.real (by decide +kernel)),
      .withDefault .real (.real (by decide +kernel)),
      .withDefault .real (.real (by decide +kernel)), .withDefault .bool (.bool false),
      .withDefault .bool (.bool false), .optional .text⟩

def GraphMetadata.codec : Codec GraphMetadata := ⟨decode, encode⟩

def GraphMetadata.layout : List (Slot GraphMetadata) := [
  .optional "name" .text (·.name),
  .optional "description" .text (·.description),
  .optional "createdAt" .text (·.createdAt),
  .optional "updatedAt" .text (·.updatedAt)]

theorem GraphMetadata.laid_out : LaidOut GraphMetadata.codec GraphMetadata.layout where
  distinct := by decide
  written _ := rfl
  read {_ record} := by
    cases record
    simp only [GraphMetadata.codec, GraphMetadata.decode, bind_eq_ok_iff, pure_eq_ok_iff,
      GraphMetadata.mk.injEq, existsAndEq, and_true]
    exact Iff.rfl

theorem GraphMetadata.faithful : GraphMetadata.codec.Faithful :=
  laid_out.faithful fun _ =>
    ⟨.optional .text, .optional .text, .optional .text, .optional .text⟩

def Graph.codec : Codec Graph := ⟨decode, encode⟩

def Graph.layout : List (Slot Graph) := [
  .required "nodes" (.list Node.codec) (·.nodes),
  .required "links" (.list Link.codec) (·.links),
  .optional "metadata" GraphMetadata.codec (·.metadata)]

theorem Graph.laid_out : LaidOut Graph.codec Graph.layout where
  distinct := by decide
  written _ := rfl
  read {_ record} := by
    cases record
    simp only [Graph.codec, Graph.decode, bind_eq_ok_iff, pure_eq_ok_iff, Graph.mk.injEq,
      existsAndEq, and_true]
    exact Iff.rfl

theorem Graph.faithful : Graph.codec.Faithful :=
  laid_out.faithful fun _ =>
    ⟨.required (.list Node.faithful), .required (.list Link.faithful),
      .optional GraphMetadata.faithful⟩

end NetworkTwin
