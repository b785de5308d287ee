import NetworkTwin.Document.Value
import NetworkTwin.Instant.Basic
import NetworkTwin.Severity

/-!
Findings. An analysis makes an observation; a run records it as a finding under an identifier and a
time.
-/

namespace NetworkTwin

/-- What an analysis has to say: what it saw, what is involved, and what could be done. -/
structure Observation where
  severity : Severity
  title : String
  description : String
  nodes : List String
  links : List String
  evidence : Option Value
  remediation : Option String
  category : Option String

structure Finding extends Observation where
  id : String
  runId : Option String
  createdAt : Instant

namespace Observation

def plain (severity : Severity) (title description : String) : Observation :=
  { severity := severity, title := title, description := description, nodes := [], links := [],
    evidence := none, remediation := none, category := none }

def withNodes (observation : Observation) (nodes : List String) : Observation :=
  { observation with nodes := nodes }

def withLinks (observation : Observation) (links : List String) : Observation :=
  { observation with links := links }

/-- The observation with its evidence. The entries of objects are put in order. -/
def withEvidence (observation : Observation) (evidence : Value) : Observation :=
  { observation with evidence := some evidence.normalize }

def withRemediation (observation : Observation) (remediation : String) : Observation :=
  { observation with remediation := some remediation }

def withCategory (observation : Observation) (category : String) : Observation :=
  { observation with category := some category }

end Observation

end NetworkTwin
