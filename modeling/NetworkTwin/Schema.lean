import NetworkTwin.Decimal.Notation
import NetworkTwin.Text.LetterCase

/-!
Violations of the schema: what a document may not say although its shape is right.
-/

namespace NetworkTwin

inductive LinkQuantity where
  | latency
  | bandwidth
  | jitter
deriving DecidableEq, Repr

def LinkQuantity.field : LinkQuantity → String
  | .latency => "latency"
  | .bandwidth => "bandwidth"
  | .jitter => "jitter"

inductive SchemaViolation where
  | emptyNodeId
  | repeatedInterface (node interface : String)
  | emptyLinkId
  | linkLoss (link : String) (loss : Float)
  | linkQuantity (link : String) (quantity : LinkQuantity) (value : Float)
  | emptyScenarioId
  | emptyEndpoint (flow : String)
  | emptyTarget (fault : String)
  | faultLoss (fault : String) (loss : Float)
  | unknownSeverity (word : String)

def SchemaViolation.detail : SchemaViolation → String
  | .emptyNodeId => "node id must not be empty"
  | .repeatedInterface node interface => "node " ++ node ++ ": duplicate interface id " ++ interface
  | .emptyLinkId => "link id must not be empty"
  | .linkLoss link loss => "link " ++ link ++ ": loss " ++ Decimal.plain loss ++ " outside 0-100"
  | .linkQuantity link quantity value =>
      "link " ++ link ++ ": " ++ quantity.field ++ " must be a non-negative number, got " ++
        Decimal.plain value
  | .emptyScenarioId => "scenario id must not be empty"
  | .emptyEndpoint flow => "flow " ++ flow ++ ": endpoints must not be empty"
  | .emptyTarget fault => "fault " ++ fault ++ ": targetId must not be empty"
  | .faultLoss fault loss =>
      "fault " ++ fault ++ ": loss " ++ Decimal.plain loss ++ " outside 0-100"
  | .unknownSeverity word => "unknown severity: " ++ Text.lowerAsciiText word

def SchemaViolation.message (violation : SchemaViolation) : String :=
  "schema violation: " ++ violation.detail

def isPercentage (loss : Float) : Bool := 0.0 ≤ loss && loss ≤ 100.0

def isQuantity (value : Float) : Bool := value.isFinite && !(value < 0.0)

end NetworkTwin
