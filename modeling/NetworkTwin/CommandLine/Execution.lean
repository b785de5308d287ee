import NetworkTwin.CommandLine.Command
import NetworkTwin.CommandLine.Host
import NetworkTwin.Document.Json.Printer
import NetworkTwin.Loading
import NetworkTwin.Run.Simulation
import NetworkTwin.Run.Wire
import NetworkTwin.Sample

/-!
Carrying out commands. A command logs what it does, prints or writes its result, and fails with one
error. The result of a run is written even if the run, or a finding in it, makes the command fail.
-/

namespace NetworkTwin

inductive CommandError where
  | topologyNotLoaded (path : String) (cause : LoadError)
  | scenarioNotLoaded (path : String) (cause : LoadError)
  | policyNotRead (path : String)
  | notWritten (path : String)
  | notCreated (path : String)
  | notPrinted
  | runFailed (reason : String)
  | findingsFound (count : Nat) (threshold : Severity)
  | topologyInvalid (errors : Nat)
  | policyInvalid (errors : List String)
  | noBlastRadius (unknown : UnknownNode)

namespace CommandError

def message : CommandError → String
  | topologyNotLoaded path _ => "Failed to load topology: " ++ path
  | scenarioNotLoaded path _ => "Failed to load scenario: " ++ path
  | policyNotRead path => "Failed to read policy file: " ++ path
  | notWritten path => "Failed to write " ++ path
  | notCreated path => "Failed to create " ++ path
  | notPrinted => "failed printing to stdout"
  | runFailed reason => "Simulation failed: " ++ reason
  | findingsFound count threshold =>
      toString count ++ " finding(s) at or above " ++ threshold.name
  | topologyInvalid errors => "Topology is invalid: " ++ toString errors ++ " error(s)"
  | policyInvalid errors => "Policy has " ++ toString errors.length ++ " invalid reference(s)"
  | noBlastRadius unknown => "Failed to compute blast radius for " ++ unknown.id

def cause? : CommandError → Option String
  | topologyNotLoaded _ cause => cause.detail?
  | scenarioNotLoaded _ cause => cause.detail?
  | policyInvalid errors => some (PolicyError.invalid errors).message
  | noBlastRadius unknown => some unknown.message
  | _ => none

end CommandError

namespace Command

def logTarget : Command → String
  | .simulate _ => "twin::commands::simulate"
  | .validate _ => "twin::commands::validate"
  | .policy _ => "twin::commands::policy"
  | .blast _ _ => "twin::commands::blast"
  | .init _ => "twin::commands::init"

end Command

section

variable {m : Type → Type} [Monad m] [Host m]

abbrev Task (m : Type → Type) (α : Type) := ExceptT CommandError m α

abbrev Logger (m : Type → Type) := LogLevel → String → m Unit

def load (α : Type) [Loadable α] (path : String) (failure : LoadError → CommandError) :
    Task m α := do
  match Loadable.ofFile path (← Host.readFile path) with
  | .ok item => return item
  | .error cause => throw (failure cause)

def loadTopology [Readable Graph] (path : String) : Task m Graph :=
  load Graph path (.topologyNotLoaded path)

def loadScenario [Readable Scenario] (path : String) : Task m Scenario :=
  load Scenario path (.scenarioNotLoaded path)

def orFail (action : m Bool) (failure : CommandError) : Task m Unit := do
  if ← action then return () else throw failure

def Severity.logLevel : Severity → LogLevel
  | .critical => .error
  | .high => .error
  | .medium => .warn
  | .low => .info
  | .info => .info

def RunResult.logLines (result : RunResult) : List (LogLevel × String) :=
  let metrics := result.metrics
  [(.info, "Run " ++ result.id ++ " " ++ result.status.name ++ ": " ++
      toString result.events.length ++ " event(s), " ++ toString result.findings.length ++
      " finding(s)"),
    (.info, "Packets processed/dropped: " ++ toString metrics.packetsProcessed ++ "/" ++
      toString metrics.packetsDropped ++ ", policies evaluated/blocked: " ++
      toString metrics.policiesEvaluated ++ "/" ++ toString metrics.policiesBlocked)] ++
  (result.findings.map fun finding =>
    (finding.severity.logLevel,
      "[" ++ finding.severity.name ++ "] " ++ finding.title ++ ": " ++ finding.description)) ++
  (result.blastRadius.toList.map fun blast =>
    (.info, "Blast radius of " ++ blast.compromised ++ ": " ++
      toString blast.affectedNodes.length ++ " node(s), impact score " ++ toString blast.score))

/-- The error that a result of a run stands for, if any: the run failed, or a finding is as serious
as a threshold. -/
def RunResult.failure? (result : RunResult) (threshold : Option Severity) : Option CommandError :=
  if !result.isCompleted then
    some (.runFailed ((result.events.head?.map (·.message)).getD ""))
  else
    threshold.bind fun severity =>
      let count := (result.findingsAtLeast severity).length
      if count = 0 then none else some (.findingsFound count severity)

/-- Writes a result to a file, or else prints it as a line. -/
def putOut (text : String) (output : Option String) (log : Logger m) : Task m Unit :=
  match output with
  | some path => do
      orFail (Host.writeFile path text) (.notWritten path)
      log .info ("Wrote run result to " ++ path)
  | none => orFail (Host.print (text ++ "\n")) .notPrinted

def SimulateCommand.execute [Readable Graph] [Readable Scenario] (command : SimulateCommand)
    (log : Logger m) : Task m Unit := do
  log .info ("Topology: " ++ command.graph)
  log .info ("Scenario: " ++ command.scenario)
  let graph ← loadTopology command.graph
  let scenario ← loadScenario command.scenario
  let startedAt ← Host.now
  let finishedAt ← Host.now
  let result := command.config.simulate ⟨startedAt, finishedAt⟩ graph scenario
  let text := Json.render result.encode
  putOut text command.output log
  for line in result.logLines do
    log line.1 line.2
  match result.failure? command.failOn with
  | some failure => throw failure
  | none => return ()

def validateTopology [Readable Graph] (path : String) (log : Logger m) : Task m Unit := do
  log .info ("Validating topology: " ++ path)
  let graph ← loadTopology path
  let report := graph.validate
  for issue in report.errors do
    log .error issue.message
  for issue in report.warnings do
    log .warn issue.message
  if report.valid then
    log .info ("Topology is valid: " ++ toString graph.nodes.length ++ " node(s), " ++
      toString graph.links.length ++ " link(s), " ++ toString report.warnings.length ++
      " warning(s)")
  else throw (.topologyInvalid report.errors.length)

def Policy.logLines (policy : Policy) (path : String) : List (LogLevel × String) :=
  [(.info, "Parsed " ++ toString policy.rules.length ++ " rule(s) from " ++ path)] ++
  (policy.rules.mapIdx fun place rule =>
    (.info, "  " ++ toString (place + 1) ++ ". " ++ rule.render)) ++
  (policy.skipped.map fun skipped =>
    (.warn, "Skipped line " ++ toString skipped.line ++ ": " ++ skipped.text)) ++
  (if policy.hasCatchAll then [] else
    [(.warn, "Policy has no catch-all rule; unmatched traffic falls through to default deny")])

def Decision.sentence (decision : Decision) (query : Query) : String :=
  (if decision.allowed then "ALLOW " else "DENY ") ++ query.source ++ " -> " ++
    query.destination ++ ": " ++ decision.reason

def PolicyCommand.execute [Readable Graph] (command : PolicyCommand) (log : Logger m) :
    Task m Unit := do
  match (← Host.readFile command.policy).bind String.fromUTF8? with
  | none => throw (.policyNotRead command.policy)
  | some source => do
      let policy := Policy.parse source
      for line in policy.logLines command.policy do
        log line.1 line.2
      let tags : TagMap ← match command.graph with
        | some path => do pure (← loadTopology path).tags
        | none => pure Dictionary.empty
      match command.query with
      | some query => log .info ((policy.evaluate tags query).sentence query)
      | none => pure ()
      if command.graph.isSome then
        let report := policy.validate tags
        for error in report.errors do
          log .error error
        if report.valid then log .info "All policy references resolve against the topology"
        else throw (.policyInvalid report.errors)

def printBlastRadius [Readable Graph] (path node : String) (log : Logger m) : Task m Unit := do
  let graph ← loadTopology path
  match graph.blastRadius node with
  | .error unknown => throw (.noBlastRadius unknown)
  | .ok report => do
      log .info ("Compromising " ++ report.compromised ++ " affects " ++
        toString report.affectedNodes.length ++ " node(s) and " ++
        toString report.affectedLinks.length ++ " link(s), impact score " ++
        toString report.score)
      orFail (Host.print (Json.render report.encode ++ "\n")) .notPrinted

def pathIn (directory name : String) : String :=
  if directory.isEmpty || directory.endsWith "/" then directory ++ name
  else directory ++ "/" ++ name

def createSample (path content : String) (log : Logger m) : Task m Unit := do
  if ← Host.isPresent path then log .info ("Skipped: " ++ path ++ " (already exists)")
  else do
    orFail (Host.writeFile path content) (.notCreated path)
    log .info ("Created: " ++ path)

def sampleFiles : List (String × String) := [
  ("topology.json", Json.render Sample.office.encode.normalize),
  ("scenario.json", Json.render Sample.officeDay.encode.normalize),
  ("perimeter.policy", Sample.officePolicy)]

def createProject (directory : String) (log : Logger m) : Task m Unit := do
  log .info ("Initializing Inspector Twin project at: " ++ directory)
  orFail (Host.makeDirectories directory) (.notCreated directory)
  for file in sampleFiles do
    createSample (pathIn directory file.1) file.2 log
  log .info "Next steps:"
  log .info "  1. Edit topology.json and scenario.json"
  log .info "  2. Run: twin validate --graph topology.json"
  log .info "  3. Run: twin simulate --graph topology.json --scenario scenario.json"

def Command.execute [Readable Graph] [Readable Scenario] (command : Command) (log : Logger m) :
    Task m Unit :=
  match command with
  | .simulate command => command.execute log
  | .validate graph => validateTopology graph log
  | .policy command => command.execute log
  | .blast graph node => printBlastRadius graph node log
  | .init path => createProject path log

end

inductive Ending where
  | misused (error : UsageError)
  | told
  | succeeded
  | failed (error : CommandError)

/-- The exit status. A program that cannot print its result is aborted. -/
def Ending.status : Ending → Nat
  | .misused _ => 2
  | .told => 0
  | .succeeded => 0
  | .failed .notPrinted => 101
  | .failed _ => 1

def Ending.ofOutcome : Except CommandError Unit → Ending
  | .ok () => .succeeded
  | .error error => .failed error

namespace CommandLine

def versionText : String := "twin 0.1.0\n"

def helpText : String :=
  "Network digital-twin simulation and firewall policy evaluation\n\n" ++
  "Usage: twin [OPTIONS] <COMMAND>\n\n" ++
  "Commands:\n" ++
  "  simulate  Simulate a scenario against a topology\n" ++
  "  validate  Validate the structure of a topology\n" ++
  "  policy    Parse a firewall policy and optionally evaluate one flow\n" ++
  "  blast     Report the blast radius of a compromised node\n" ++
  "  init      Write a sample topology and scenario\n" ++
  "  help      Print this message or the help of the given subcommand(s)\n\n" ++
  "Options:\n" ++
  "  -v, --verbose  Enable verbose output\n" ++
  "  -h, --help     Print help\n" ++
  "  -V, --version  Print version\n"

def logVariable : String := "RUST_LOG"

/-- The filter on the log: that of the environment if it is one, and else by verbosity. -/
def logFilter (environment : String → Option String) (verbose : Bool) : LogFilter :=
  ((environment logVariable).bind LogFilter.read?).getD
    (.ofLevel (if verbose then .debug else .info))

def run {m : Type → Type} [Monad m] [Host m] [Readable Graph] [Readable Scenario]
    (environment : String → Option String) (arguments : List String) : m Ending := do
  match Wish.read environment arguments with
  | .error error => return .misused error
  | .ok .help => do
      let _ ← Host.print helpText
      return .told
  | .ok .version => do
      let _ ← Host.print versionText
      return .told
  | .ok (.run command verbose) => do
      let filter := logFilter environment verbose
      let log : Logger m := fun level message =>
        if filter.admits command.logTarget level then Host.log level message else pure ()
      return .ofOutcome (← (command.execute log).run)

end CommandLine

end NetworkTwin
