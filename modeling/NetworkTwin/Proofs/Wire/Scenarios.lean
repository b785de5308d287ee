import NetworkTwin.Proofs.Wire.Topologies
import NetworkTwin.Scenario.Wire

/-!
Scenarios survive being written, their free-form metadata and options included.
-/

namespace NetworkTwin

theorem FaultKind.of_name_name (kind : FaultKind) : ofName? kind.name = some kind := by
  cases kind <;> decide +kernel

theorem AttackKind.of_name_name (kind : AttackKind) : ofName? kind.name = some kind := by
  cases kind <;> decide +kernel

def FaultKind.codec : Codec FaultKind := ⟨decode, encode⟩

theorem FaultKind.faithful : FaultKind.codec.Faithful := .choice of_name_name

def AttackKind.codec : Codec AttackKind := ⟨decode, encode⟩

theorem AttackKind.faithful : AttackKind.codec.Faithful := .choice of_name_name

def Flow.codec : Codec Flow := ⟨decode, encode⟩

def Flow.layout : List (Slot Flow) := [
  .required "id" .text (·.id),
  .required "from" .text (·.source),
  .required "to" .text (·.destination),
  .required "protocol" .text (·.protocol),
  .optional "port" .uint16 (·.port),
  .withDefault "rate" .real 1.0 (·.rate),
  .optional "label" .text (·.label)]

theorem Flow.laid_out : LaidOut Flow.codec Flow.layout where
  distinct := by decide
  written _ := rfl
  read {_ record} := by
    cases record
    simp only [Flow.codec, Flow.decode, bind_eq_ok_iff, pure_eq_ok_iff, Flow.mk.injEq, existsAndEq,
      and_true]
    exact Iff.rfl

theorem Flow.faithful : Flow.codec.Faithful :=
  laid_out.faithful fun _ =>
    ⟨.required .text, .required .text, .required .text, .required .text, .optional .uint16,
      .withDefault .real (.real (by decide +kernel)), .optional .text⟩

def FaultParams.codec : Codec FaultParams := ⟨decode, encode⟩

def FaultParams.layout : List (Slot FaultParams) := [
  .optional "latency" .real (·.latency),
  .optional "loss" .real (·.loss)]

theorem FaultParams.laid_out : LaidOut FaultParams.codec FaultParams.layout where
  distinct := by decide
  written _ := rfl
  read {_ record} := by
    cases record
    simp only [FaultParams.codec, FaultParams.decode, bind_eq_ok_iff, pure_eq_ok_iff,
      FaultParams.mk.injEq, existsAndEq, and_true]
    exact Iff.rfl

theorem FaultParams.faithful : FaultParams.codec.Faithful :=
  laid_out.faithful fun _ =>
    ⟨.optional .real, .optional .real⟩

def Fault.codec : Codec Fault := ⟨decode, encode⟩

def Fault.layout : List (Slot Fault) := [
  .required "id" .text (·.id),
  .required "type" FaultKind.codec (·.kind),
  .required "targetId" .text (·.target),
  .withDefault "startTime" .uint64 0 (·.startTime),
  .optional "duration" .uint64 (·.duration),
  .optional "params" FaultParams.codec (·.params)]

theorem Fault.laid_out : LaidOut Fault.codec Fault.layout where
  distinct := by decide
  written _ := rfl
  read {_ record} := by
    cases record
    simp only [Fault.codec, Fault.decode, bind_eq_ok_iff, pure_eq_ok_iff, Fault.mk.injEq,
      existsAndEq, and_true]
    exact Iff.rfl

theorem Fault.faithful : Fault.codec.Faithful :=
  laid_out.faithful fun _ =>
    ⟨.required .text, .required FaultKind.faithful, .required .text,
      .withDefault .uint64 (.uint64 _), .optional .uint64,
      .optional FaultParams.faithful⟩

def AttackEvent.codec : Codec AttackEvent := ⟨decode, encode⟩

def AttackEvent.layout : List (Slot AttackEvent) := [
  .required "id" .text (·.id),
  .required "type" AttackKind.codec (·.kind),
  .required "sourceNodeId" .text (·.source),
  .optional "targetNodeId" .text (·.target),
  .required "timestamp" .uint64 (·.timestamp),
  .optional "metadata" .attributes (·.metadata)]

theorem AttackEvent.laid_out : LaidOut AttackEvent.codec AttackEvent.layout where
  distinct := by decide
  written _ := rfl
  read {_ record} := by
    cases record
    simp only [AttackEvent.codec, AttackEvent.decode, bind_eq_ok_iff, pure_eq_ok_iff,
      AttackEvent.mk.injEq, existsAndEq, and_true]
    exact Iff.rfl

theorem AttackEvent.faithful : AttackEvent.codec.Faithful :=
  laid_out.faithful fun _ =>
    ⟨.required .text, .required AttackKind.faithful, .required .text, .optional .text,
      .required .uint64, .optional .attributes⟩

def Scenario.codec : Codec Scenario := ⟨decode, encode⟩

def Scenario.layout : List (Slot Scenario) := [
  .required "id" .text (·.id),
  .required "name" .text (·.name),
  .optional "description" .text (·.description),
  .required "topologyId" .text (·.topologyId),
  .withDefault "flows" (.list Flow.codec) [] (·.flows),
  .withDefault "faults" (.list Fault.codec) [] (·.faults),
  .withDefault "attackEvents" (.list AttackEvent.codec) [] (·.attacks),
  .withDefault "duration" .uint64 defaultDuration (·.duration),
  .optional "options" .attributes (·.options)]

theorem Scenario.laid_out : LaidOut Scenario.codec Scenario.layout where
  distinct := by decide
  written _ := rfl
  read {_ record} := by
    cases record
    simp only [Scenario.codec, Scenario.decode, bind_eq_ok_iff, pure_eq_ok_iff, Scenario.mk.injEq,
      existsAndEq, and_true]
    exact Iff.rfl

theorem Scenario.faithful : Scenario.codec.Faithful :=
  laid_out.faithful fun _ =>
    ⟨.required .text, .required .text, .optional .text, .required .text,
      .withDefault (.list Flow.faithful) .nil, .withDefault (.list Fault.faithful) .nil,
      .withDefault (.list AttackEvent.faithful) .nil,
      .withDefault .uint64 (.uint64 _), .optional .attributes⟩

end NetworkTwin
