import NetworkTwin.Main
import NetworkTwin.Proofs.Faults.Cabling
import NetworkTwin.Proofs.Faults.SchemaKept
import NetworkTwin.Proofs.Policy.Coverage
import NetworkTwin.Proofs.Policy.Grammar
import NetworkTwin.Proofs.Policy.Rendering
import NetworkTwin.Proofs.Routing.Latency
import NetworkTwin.Proofs.Routing.Shortest
import NetworkTwin.Proofs.Routing.Tables
import NetworkTwin.Proofs.Run.Agreement
import NetworkTwin.Proofs.Run.AllOrNothing
import NetworkTwin.Proofs.Run.Attacks
import NetworkTwin.Proofs.Run.Chronicle
import NetworkTwin.Proofs.Run.Conservation
import NetworkTwin.Proofs.Run.Descriptions
import NetworkTwin.Proofs.Run.Enforcement
import NetworkTwin.Proofs.Run.Settings
import NetworkTwin.Proofs.Run.Static
import NetworkTwin.Proofs.Run.Written
import NetworkTwin.Proofs.Text.Keywords
import NetworkTwin.Proofs.Text.Words
import NetworkTwin.Proofs.Text.Wordwise
import NetworkTwin.Proofs.Wire.Nesting
import NetworkTwin.Proofs.Wire.Loading
import NetworkTwin.Proofs.Routing.Hops
import NetworkTwin.Proofs.Faults.Disconnection
import NetworkTwin.Proofs.Run.Findings
import NetworkTwin.Proofs.Topology.Direction
import NetworkTwin.Proofs.Faults.Reordering
import NetworkTwin.Proofs.Faults.Namesakes
import NetworkTwin.Proofs.Policy.LineByLine
import NetworkTwin.Proofs.Policy.Locality
import NetworkTwin.Proofs.Policy.Protocols
import NetworkTwin.Proofs.Policy.Rewriting
import NetworkTwin.Proofs.Text.Numerals
import NetworkTwin.Proofs.Policy.Ports
import NetworkTwin.Proofs.Policy.Messages
import NetworkTwin.Proofs.Policy.References
import NetworkTwin.Proofs.Policy.Applicability
import NetworkTwin.Proofs.Policy.Spelling
import NetworkTwin.Proofs.Topology.Neighbourhood
import NetworkTwin.Proofs.Topology.Remarks
import NetworkTwin.Proofs.Schema.FirstViolation
import NetworkTwin.Proofs.Run.Verdicts
import NetworkTwin.Proofs.Routing.LooseEnds
import NetworkTwin.Proofs.Routing.Tree
import NetworkTwin.Proofs.CommandLine.ExitStatus
import NetworkTwin.Proofs.Run.Identifiers
