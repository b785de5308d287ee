import NetworkTwin.Policy.Evaluation

/-!
Judging a policy without a flow: references that name neither a node nor a tag, and port filters
that cannot apply.
-/

namespace NetworkTwin

/-- What is wrong with a policy, in the order of its rules. -/
structure PolicyReport where
  valid : Bool
  errors : List String
deriving DecidableEq, Repr

def TagMap.isKnown (tags : TagMap) (reference : String) : Bool :=
  tags.contains reference || tags.values.any (·.contains reference)

namespace Rule

def referenceErrors (rule : Rule) (tags : TagMap) : List String :=
  (if !isAny rule.source && !tags.isKnown rule.source then
    ["Invalid source reference: " ++ rule.source] else []) ++
  (if !isAny rule.destination && !tags.isKnown rule.destination then
    ["Invalid destination reference: " ++ rule.destination] else [])

def portErrors (rule : Rule) : List String :=
  match rule.port with
  | none => []
  | some filter =>
      (if rule.protocol = some "icmp" then
        ["ICMP protocol does not support port specification"] else []) ++
      (match filter.bounds with
        | .ok _ => []
        | .error error => [error.message])

def errors (rule : Rule) (tags : TagMap) : List String :=
  rule.referenceErrors tags ++ rule.portErrors

end Rule

def Policy.validate (policy : Policy) (tags : TagMap) : PolicyReport :=
  let errors := policy.rules.flatMap fun rule => rule.errors tags
  ⟨errors.isEmpty, errors⟩

def PolicyReport.outcome (report : PolicyReport) : Except PolicyError Unit :=
  if report.valid then .ok () else .error (.invalid report.errors)

end NetworkTwin
