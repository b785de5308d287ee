import NetworkTwin.CommandLine.Arguments
import NetworkTwin.Run.Config

/-!
Commands as the arguments ask for them.
-/

namespace NetworkTwin

/-- What to simulate: the files of the topology and the scenario, the file for the result if it is
not to be printed, the settings of the run, and the severity from which a finding makes the command
fail. -/
structure SimulateCommand where
  graph : String
  scenario : String
  output : Option String
  config : Config
  failOn : Option Severity
deriving DecidableEq, Repr

/-- What to tell about a policy: its file, the file of a topology that it has to agree with, and a
flow to decide. -/
structure PolicyCommand where
  policy : String
  graph : Option String
  query : Option Query
deriving DecidableEq, Repr

inductive Command where
  | simulate (command : SimulateCommand)
  | validate (graph : String)
  | policy (command : PolicyCommand)
  | blast (graph node : String)
  | init (path : String)
deriving DecidableEq, Repr

inductive Wish where
  | run (command : Command) (verbose : Bool)
  | help
  | version
deriving DecidableEq, Repr

namespace Settings

def graph (settings : Settings) : String := (settings.value? "graph").getD "topology.json"

def config (settings : Settings) : Config :=
  { Config.default with
    timeStep := ((settings.value? "time-step").bind readMilliseconds?).getD Config.default.timeStep
    blastNode := settings.value? "blast-radius" }

def query? (settings : Settings) : Option Query := do
  some {
    source := ← settings.value? "from"
    destination := ← settings.value? "to"
    protocol := settings.value? "protocol"
    port := (settings.value? "port").bind readPort? }

/-- The command that the settings describe, where all required options are given. -/
def command (settings : Settings) : Verb → Command
  | .simulate => .simulate {
      graph := settings.graph
      scenario := (settings.value? "scenario").getD "scenario.json"
      output := settings.value? "output"
      config := settings.config
      failOn := (settings.value? "fail-on").bind Severity.read? }
  | .validate => .validate settings.graph
  | .policy => .policy {
      policy := (settings.value? "policy").getD ""
      graph := settings.value? "graph"
      query := settings.query? }
  | .blast => .blast settings.graph ((settings.value? "node").getD "")
  | .init => .init (settings.place.getD ".")

end Settings

def Wish.read (environment : String → Option String) (arguments : List String) :
    Except UsageError Wish := do
  match ← Arguments.read .empty arguments with
  | .help => return .help
  | .version => return .version
  | .settings (verb, given) =>
      let settings ← Arguments.addEnvironment environment given verb.options
      Arguments.checkRequired verb settings
      return .run (settings.command verb) settings.verbose

end NetworkTwin
