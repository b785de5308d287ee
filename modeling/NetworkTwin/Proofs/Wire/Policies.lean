import NetworkTwin.Proofs.Wire.Records
import NetworkTwin.Policy.Wire

/-!
Policies survive being written. A port filter is a number or a token, and keeps being which of the
two it was; the list of skipped lines comes back whether it is written or left out.
-/

namespace NetworkTwin

theorem Action.of_name_name (action : Action) : ofName? action.name = some action := by
  cases action <;> decide +kernel

def Action.codec : Codec Action := ⟨decode, encode⟩

theorem Action.faithful : Action.codec.Faithful := .choice of_name_name

def PortFilter.codec : Codec PortFilter := ⟨decode, encode⟩

theorem PortFilter.faithful : PortFilter.codec.Faithful where
  keeps {value filter} inRange read := by
    cases value with
    | number number =>
        obtain ⟨port, decoded, same⟩ := bind_eq_ok_iff.1 read
        cases same
        have decoded : Codec.uint16.decode (Value.number number).toTree = .ok port := decoded
        have kept := Codec.Faithful.uint16.keeps inRange decoded
        exact ⟨kept.inRange, bind_eq_ok_iff.2 ⟨port, kept.readsBack, rfl⟩⟩
    | text token =>
        cases read
        exact ⟨trivial, rfl⟩
    | null | bool _ | list _ | object _ => exact nomatch read
  null {_ filter} _ _ written := by cases filter <;> cases written

def Rule.codec : Codec Rule := ⟨decode, encode⟩

def Rule.layout : List (Slot Rule) := [
  .required "action" Action.codec (·.action),
  .optional "protocol" .text (·.protocol),
  .required "from" .text (·.source),
  .required "to" .text (·.destination),
  .optional "port" PortFilter.codec (·.port),
  .optional "comment" .text (·.comment)]

theorem Rule.laid_out : LaidOut Rule.codec Rule.layout where
  distinct := by decide
  written _ := rfl
  read {_ record} := by
    cases record
    simp only [Rule.codec, Rule.decode, bind_eq_ok_iff, pure_eq_ok_iff, Rule.mk.injEq, existsAndEq,
      and_true]
    exact Iff.rfl

theorem Rule.faithful : Rule.codec.Faithful :=
  laid_out.faithful fun _ =>
    ⟨.required Action.faithful, .optional .text, .required .text, .required .text,
      .optional PortFilter.faithful, .optional .text⟩

def SkippedLine.codec : Codec SkippedLine := ⟨decode, encode⟩

def SkippedLine.layout : List (Slot SkippedLine) := [
  .required "line" (.natural UInt64.size) (·.line),
  .required "text" .text (·.text)]

theorem SkippedLine.laid_out : LaidOut SkippedLine.codec SkippedLine.layout where
  distinct := by decide
  written _ := rfl
  read {_ record} := by
    cases record
    simp only [SkippedLine.codec, SkippedLine.decode, bind_eq_ok_iff, pure_eq_ok_iff,
      SkippedLine.mk.injEq, existsAndEq, and_true]
    exact Iff.rfl

theorem SkippedLine.faithful : SkippedLine.codec.Faithful :=
  laid_out.faithful fun _ =>
    ⟨.required (.natural _), .required .text⟩

def Policy.codec : Codec Policy := ⟨decode, encode⟩

def Policy.layout : List (Slot Policy) := [
  .required "rules" (.list Rule.codec) (·.rules),
  .unlessEmpty "skipped" SkippedLine.codec (·.skipped)]

theorem Policy.laid_out : LaidOut Policy.codec Policy.layout where
  distinct := by decide
  written _ := rfl
  read {_ record} := by
    cases record
    simp only [Policy.codec, Policy.decode, bind_eq_ok_iff, pure_eq_ok_iff, Policy.mk.injEq,
      existsAndEq, and_true]
    exact Iff.rfl

theorem Policy.faithful : Policy.codec.Faithful :=
  laid_out.faithful fun _ =>
    ⟨.required (.list Rule.faithful), .unlessEmpty SkippedLine.faithful⟩

def Decision.codec : Codec Decision := ⟨decode, encode⟩

def Decision.layout : List (Slot Decision) := [
  .required "allowed" .bool (·.allowed),
  .optional "matchedRule" Rule.codec (·.matchedRule),
  .required "reason" .text (·.reason)]

theorem Decision.laid_out : LaidOut Decision.codec Decision.layout where
  distinct := by decide
  written _ := rfl
  read {_ record} := by
    cases record
    simp only [Decision.codec, Decision.decode, bind_eq_ok_iff, pure_eq_ok_iff, Decision.mk.injEq,
      existsAndEq, and_true]
    exact Iff.rfl

theorem Decision.faithful : Decision.codec.Faithful :=
  laid_out.faithful fun _ =>
    ⟨.required .bool, .optional Rule.faithful, .required .text⟩

def PolicyReport.codec : Codec PolicyReport := ⟨decode, encode⟩

def PolicyReport.layout : List (Slot PolicyReport) := [
  .required "valid" .bool (·.valid),
  .required "errors" (.list .text) (·.errors)]

theorem PolicyReport.laid_out : LaidOut PolicyReport.codec PolicyReport.layout where
  distinct := by decide
  written _ := rfl
  read {_ record} := by
    cases record
    simp only [PolicyReport.codec, PolicyReport.decode, bind_eq_ok_iff, pure_eq_ok_iff,
      PolicyReport.mk.injEq, existsAndEq, and_true]
    exact Iff.rfl

theorem PolicyReport.faithful : PolicyReport.codec.Faithful :=
  laid_out.faithful fun _ =>
    ⟨.required .bool, .required (.list .text)⟩

end NetworkTwin
