import NetworkTwin.Document.Decode
import NetworkTwin.Policy.Validation

/-!
Policies and what is derived from them as documents. A port filter is written as a number if it is
one, and else as its token.
-/

namespace NetworkTwin

def Action.decode : Tree → Decoded Action := Tree.choiceOf Action.ofName?

def Action.encode (action : Action) : Value := .text action.name

/-- A port number out of range is not read as a token. -/
def PortFilter.decode : Tree → Decoded PortFilter
  | .number value => do return .number (← (Tree.number value).asUInt16)
  | .text token => .ok (.range token)
  | _ => .error (.expected "port")

def PortFilter.encode : PortFilter → Value
  | .number port => .natural port.toNat
  | .range token => .text token

def Rule.fieldNames : List String := ["action", "protocol", "from", "to", "port", "comment"]

def Rule.decode (tree : Tree) : Decoded Rule := do
  let fields ← tree.asRecord Rule.fieldNames
  return {
    action := ← fields.required "action" Action.decode
    protocol := ← fields.optional "protocol" Tree.asText
    source := ← fields.required "from" Tree.asText
    destination := ← fields.required "to" Tree.asText
    port := ← fields.optional "port" PortFilter.decode
    comment := ← fields.optional "comment" Tree.asText }

def Rule.encode (rule : Rule) : Value :=
  Value.record [
    ("action", some rule.action.encode),
    ("protocol", rule.protocol.map .text),
    ("from", some (.text rule.source)),
    ("to", some (.text rule.destination)),
    ("port", rule.port.map PortFilter.encode),
    ("comment", rule.comment.map .text)]

def SkippedLine.decode (tree : Tree) : Decoded SkippedLine := do
  let fields ← tree.asRecord ["line", "text"]
  return {
    line := ← fields.required "line" (Tree.asNatural UInt64.size)
    text := ← fields.required "text" Tree.asText }

def SkippedLine.encode (skipped : SkippedLine) : Value :=
  Value.record [
    ("line", some (.natural skipped.line)),
    ("text", some (.text skipped.text))]

def Policy.decode (tree : Tree) : Decoded Policy := do
  let fields ← tree.asRecord ["rules", "skipped"]
  return {
    rules := ← fields.required "rules" (Tree.listOf Rule.decode)
    skipped := ← fields.withDefault "skipped" [] (Tree.listOf SkippedLine.decode) }

/-- The list of skipped lines is left out if it is empty. -/
def Policy.encode (policy : Policy) : Value :=
  Value.record [
    ("rules", some (.list (policy.rules.map Rule.encode))),
    ("skipped", if policy.skipped.isEmpty then none
      else some (.list (policy.skipped.map SkippedLine.encode)))]

def Decision.decode (tree : Tree) : Decoded Decision := do
  let fields ← tree.asRecord ["allowed", "matchedRule", "reason"]
  return {
    allowed := ← fields.required "allowed" Tree.asBool
    matchedRule := ← fields.optional "matchedRule" Rule.decode
    reason := ← fields.required "reason" Tree.asText }

def Decision.encode (decision : Decision) : Value :=
  Value.record [
    ("allowed", some (.bool decision.allowed)),
    ("matchedRule", decision.matchedRule.map Rule.encode),
    ("reason", some (.text decision.reason))]

def PolicyReport.decode (tree : Tree) : Decoded PolicyReport := do
  let fields ← tree.asRecord ["valid", "errors"]
  return {
    valid := ← fields.required "valid" Tree.asBool
    errors := ← fields.required "errors" (Tree.listOf Tree.asText) }

def PolicyReport.encode (report : PolicyReport) : Value :=
  Value.record [
    ("valid", some (.bool report.valid)),
    ("errors", some (Value.texts report.errors))]

end NetworkTwin
