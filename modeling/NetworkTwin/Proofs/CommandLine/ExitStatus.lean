import NetworkTwin.Proofs.CommandLine.Sessions

/-!
How simulating from the command line ends. The files are read first, then the run takes place, then
its result is put out, and only then the result is judged. So what makes the command fail is told by
how far it comes: nothing is put out if a file cannot be loaded, and a result that is not good
enough has been put out in full. This holds on every machine, whatever its files and its clock
answer, and whatever documents are read as.
-/

namespace NetworkTwin

variable {σ : Type} [FileSystem σ]

namespace Machine

/-- The next two readings of the clock. -/
def span (machine : Machine σ) : Span := ⟨machine.clock 0, machine.clock 1⟩

/-- Whether a file of a machine holds an item: it is a text of a known format, the text reads as the
item, and the item keeps to its schema. -/
def Holds {α : Type} [Loadable α] (machine : Machine σ) (path : String) (item : α) : Prop :=
  ∃ text format, (FileSystem.read? machine.files path).bind String.fromUTF8? = some text ∧
    Format.ofPath? path = some format ∧ Readable.read? format text = some item ∧
    Loadable.checkSchema item = .ok ()

section

variable {α : Type} [Loadable α] {machine : Machine σ} {path : String} {item other : α}

theorem holds_iff :
    machine.Holds path item ↔
      Loadable.ofFile path (FileSystem.read? machine.files path) = .ok item := by
  simp only [Holds, Loadable.of_file_eq_ok_iff, Loadable.of_text_eq_ok_iff]

theorem exists_holds
    (loads : (Loadable.ofFile path (FileSystem.read? machine.files path) :
      Except LoadError α).toOption.isSome = true) : ∃ item : α, machine.Holds path item := by
  cases loaded :
    (Loadable.ofFile path (FileSystem.read? machine.files path) : Except LoadError α) with
  | ok item => exact ⟨item, holds_iff.2 loaded⟩
  | error cause =>
      rw [loaded] at loads
      cases loads

theorem Holds.unique (holds : machine.Holds path item) (holds' : machine.Holds path other) :
    item = other :=
  Except.ok.inj ((holds_iff.1 holds).symm.trans (holds_iff.1 holds'))

theorem not_holds_of_error {cause : LoadError}
    (failed : (Loadable.ofFile path (FileSystem.read? machine.files path) : Except LoadError α) =
      .error cause) (item : α) : ¬ machine.Holds path item := by
  intro holds
  rw [holds_iff.1 holds] at failed
  cases failed

end

/-- What comes of putting out a text: it is printed as a line, or written to a file. -/
def attempt (machine : Machine σ) (text : String) : Option String → Bool × σ
  | none => FileSystem.print machine.files (text ++ "\n")
  | some path => FileSystem.write machine.files path text.toUTF8

def CanPutOut (machine : Machine σ) (text : String) (output : Option String) : Prop :=
  (machine.attempt text output).1 = true

/-- Whether a text and nothing else is put out between two machines. -/
inductive PutsOut (before after : Machine σ) (text : String) : Option String → Prop
  | printed (printed : before.attempt text none = (true, after.files))
      (output : after.output = before.output ++ (text ++ "\n")) : PutsOut before after text none
  | written {path : String} (written : before.attempt text (some path) = (true, after.files))
      (output : after.output = before.output) : PutsOut before after text (some path)

/-- Whether putting out a text has failed between two machines. Files are what the attempt has
left. -/
structure Refuses (before after : Machine σ) (text : String) (output : Option String) : Prop where
  refused : before.attempt text output = (false, after.files)
  output : after.output = before.output

variable {before after later : Machine σ} {text : String} {output : Option String}

theorem PutsOut.log (putsOut : before.PutsOut after text output)
    (alike : after.AlikeButLog later) : before.PutsOut later text output := by
  cases putsOut with
  | printed printed told => exact .printed (alike.files ▸ printed) (alike.output.trans told)
  | written written kept => exact .written (alike.files ▸ written) (alike.output.trans kept)

theorem attempt_congr (files : after.files = before.files) :
    after.attempt text output = before.attempt text output := by
  cases output <;> simp only [attempt, files]

theorem PutsOut.congr (putsOut : after.PutsOut later text output)
    (files : after.files = before.files) (same : after.output = before.output) :
    before.PutsOut later text output := by
  cases putsOut with
  | printed printed told => exact .printed (attempt_congr files ▸ printed) (same ▸ told)
  | written written kept => exact .written (attempt_congr files ▸ written) (kept.trans same)

theorem Refuses.congr (refuses : after.Refuses later text output)
    (files : after.files = before.files) (same : after.output = before.output) :
    before.Refuses later text output :=
  ⟨attempt_congr files ▸ refuses.refused, refuses.output.trans same⟩

theorem PutsOut.can_put_out (putsOut : before.PutsOut after text output) :
    before.CanPutOut text output := by
  cases putsOut with
  | printed printed => exact congrArg Prod.fst printed
  | written written => exact congrArg Prod.fst written

theorem Refuses.cannot_put_out (refuses : before.Refuses after text output) :
    ¬ before.CanPutOut text output := by
  intro can
  rw [CanPutOut, refuses.refused] at can
  cases can

end Machine

/-- Whether a result is good enough: the run is completed, and no finding is as serious as the
threshold, if there is one. -/
def RunResult.Passes (result : RunResult) (threshold : Option Severity) : Prop :=
  result.status = .completed ∧ ∀ severity, threshold = some severity →
    ∀ finding ∈ result.findings, finding.severity.rank < severity.rank

theorem RunResult.failure_eq_none_iff {result : RunResult} {threshold : Option Severity} :
    result.failure? threshold = none ↔ result.Passes threshold := by
  have none_at_least (severity : Severity) : (result.findingsAtLeast severity).length = 0 ↔
      ∀ finding ∈ result.findings, finding.severity.rank < severity.rank := by
    simp [findingsAtLeast, Severity.atLeast]
  unfold failure? Passes isCompleted
  cases threshold with
  | none => simp
  | some severity =>
      by_cases completed : result.status = .completed <;>
        by_cases few : (result.findingsAtLeast severity).length = 0 <;>
          simp [completed, few, ← none_at_least]

theorem RunResult.failure_cases {result : RunResult} {threshold : Option Severity}
    {failure : CommandError} (failed : result.failure? threshold = some failure) :
    (∃ reason, failure = .runFailed reason) ∨
      ∃ count severity, failure = .findingsFound count severity := by
  unfold failure? at failed
  split at failed
  · exact Or.inl ⟨_, (Option.some.inj failed).symm⟩
  · obtain ⟨severity, _, counted⟩ := Option.bind_eq_some_iff.1 failed
    dsimp only at counted
    split at counted
    · cases counted
    · exact Or.inr ⟨_, _, (Option.some.inj counted).symm⟩

theorem Ending.status_eq_zero_iff {outcome : Except CommandError Unit} :
    (ofOutcome outcome).status = 0 ↔ outcome = .ok () := by
  cases outcome with
  | ok done => simp [ofOutcome, status]
  | error failure => cases failure <;> simp [ofOutcome, status]

/-- The error for a result that cannot be put out. -/
def CommandError.notPutOut : Option String → CommandError
  | some path => .notWritten path
  | none => .notPrinted

theorem yields_put_out {log : Logger (StateM (Machine σ))} (onlyLogs : Machine.OnlyLogs log)
    {before : Machine σ} {text : String} {output : Option String}
    {holds : Except CommandError Unit → Machine σ → Prop}
    (done : ∀ after, before.PutsOut after text output → holds (.ok ()) after)
    (refused : ∀ after, before.Refuses after text output →
      holds (.error (.notPutOut output)) after) :
    Task.Yields (putOut text output log) before holds := by
  unfold putOut
  cases output with
  | none =>
      refine Task.yields_print (fun files printed => ?_) fun files fails => ?_
      · exact done _ (.printed printed rfl)
      · exact refused _ ⟨fails, rfl⟩
  | some path =>
      refine Task.yields_bind (Task.yields_write_file (fun files wrote => ?_) fun files fails => ?_)
      · have written : before.PutsOut { before with files := files } text (some path) :=
          .written wrote rfl
        exact Task.yields_log onlyLogs fun after alike => done after (written.log alike)
      · exact refused _ ⟨fails, rfl⟩

namespace SimulateCommand

variable [Readable Graph] [Readable Scenario] {command : SimulateCommand}
  {before after : Machine σ}

/-- The result of the run that a command asks for. -/
def result (command : SimulateCommand) (span : Span) (graph : Graph) (scenario : Scenario) :
    RunResult :=
  command.config.simulate span graph scenario

/-- The result as it is put out. -/
def text (command : SimulateCommand) (span : Span) (graph : Graph) (scenario : Scenario) : String :=
  Json.render (command.result span graph scenario).encode

/-- How a command that simulates ends: with what outcome, and with what machine after it. -/
inductive Ends (command : SimulateCommand) (before : Machine σ) :
    Except CommandError Unit → Machine σ → Prop
  | noTopology {after : Machine σ} {cause : LoadError}
      (failed : (Loadable.ofFile command.graph (FileSystem.read? before.files command.graph) :
        Except LoadError Graph) = .error cause) (alike : before.AlikeButLog after) :
      Ends command before (.error (.topologyNotLoaded command.graph cause)) after
  | noScenario {after : Machine σ} {cause : LoadError} {graph : Graph}
      (loaded : before.Holds command.graph graph)
      (failed : (Loadable.ofFile command.scenario
        (FileSystem.read? before.files command.scenario) : Except LoadError Scenario) =
          .error cause) (alike : before.AlikeButLog after) :
      Ends command before (.error (.scenarioNotLoaded command.scenario cause)) after
  | refused {after : Machine σ} {graph : Graph} {scenario : Scenario}
      (loaded : before.Holds command.graph graph)
      (scenarioLoaded : before.Holds command.scenario scenario)
      (refuses : before.Refuses after (command.text before.span graph scenario) command.output) :
      Ends command before (.error (.notPutOut command.output)) after
  | judged {after : Machine σ} {graph : Graph} {scenario : Scenario}
      (loaded : before.Holds command.graph graph)
      (scenarioLoaded : before.Holds command.scenario scenario)
      (putsOut : before.PutsOut after (command.text before.span graph scenario) command.output) :
      Ends command before
        (match (command.result before.span graph scenario).failure? command.failOn with
          | some failure => .error failure
          | none => .ok ()) after

theorem execute_ends (command : SimulateCommand) {log : Logger (StateM (Machine σ))}
    (onlyLogs : Machine.OnlyLogs log) (before : Machine σ) :
    Task.Yields (command.execute log) before (command.Ends before) := by
  unfold execute
  refine Task.yields_bind (Task.yields_log onlyLogs fun first alikeFirst => ?_)
  refine Task.yields_bind (Task.yields_log onlyLogs fun started alikeStarted => ?_)
  have alike := alikeFirst.trans alikeStarted
  refine Task.yields_bind (Task.yields_load ?_)
  rw [alike.files]
  cases loaded : (Loadable.ofFile command.graph (FileSystem.read? before.files command.graph) :
      Except LoadError Graph) with
  | error cause => exact .noTopology loaded alike
  | ok graph =>
  refine Task.yields_bind (Task.yields_load ?_)
  rw [alike.files]
  have graphHeld := Machine.holds_iff.2 loaded
  cases scenarioLoaded : (Loadable.ofFile command.scenario
      (FileSystem.read? before.files command.scenario) : Except LoadError Scenario) with
  | error cause => exact .noScenario graphHeld scenarioLoaded alike
  | ok scenario =>
  have scenarioHeld := Machine.holds_iff.2 scenarioLoaded
  -- The clock is read twice, and then only its later readings are left.
  refine Task.yields_bind (Task.yields_now (Task.yields_bind (Task.yields_now ?_)))
  have readings : (⟨started.clock 0, started.tick.clock 0⟩ : Span) = before.span := by
    rw [Machine.span, ← alike.clock]
    rfl
  dsimp only
  rw [readings]
  refine Task.yields_bind
    (yields_put_out onlyLogs (fun after putsOut => ?_) fun after refuses => ?_)
  · refine Task.yields_judged onlyLogs fun later alikeLater => .judged graphHeld scenarioHeld ?_
    exact (putsOut.congr alike.files alike.output).log alikeLater
  · exact .refused graphHeld scenarioHeld (refuses.congr alike.files alike.output)

theorem Ends.passes (ends : command.Ends before (.ok ()) after) :
    ∃ graph scenario, before.Holds command.graph graph ∧ before.Holds command.scenario scenario ∧
      before.CanPutOut (command.text before.span graph scenario) command.output ∧
      (command.result before.span graph scenario).Passes command.failOn := by
  generalize same : (Except.ok () : Except CommandError Unit) = outcome at ends
  cases ends with
  | noTopology | noScenario | refused => cases same
  | @judged _ graph scenario loaded scenarioLoaded putsOut =>
      refine ⟨graph, scenario, loaded, scenarioLoaded, putsOut.can_put_out, ?_⟩
      rw [← RunResult.failure_eq_none_iff]
      cases failed : (command.result before.span graph scenario).failure? command.failOn with
      | none => rfl
      | some failure =>
          rw [failed] at same
          cases same

/-- Where both files hold what they should, either the result has been put out and the outcome is
what it is judged, or putting it out has failed. -/
theorem Ends.of_loaded {outcome : Except CommandError Unit}
    (ends : command.Ends before outcome after) {graph : Graph} {scenario : Scenario}
    (loaded : before.Holds command.graph graph)
    (scenarioLoaded : before.Holds command.scenario scenario) :
    (before.PutsOut after (command.text before.span graph scenario) command.output ∧
      (outcome = .ok () ↔
        (command.result before.span graph scenario).Passes command.failOn)) ∨
      outcome ≠ .ok () ∧
        before.Refuses after (command.text before.span graph scenario) command.output := by
  cases ends with
  | noTopology failed => exact absurd loaded (Machine.not_holds_of_error failed graph)
  | noScenario _ failed => exact absurd scenarioLoaded (Machine.not_holds_of_error failed scenario)
  | refused loaded' scenarioLoaded' refuses =>
      obtain rfl := loaded.unique loaded'
      obtain rfl := scenarioLoaded.unique scenarioLoaded'
      exact Or.inr ⟨by simp, refuses⟩
  | judged loaded' scenarioLoaded' putsOut =>
      obtain rfl := loaded.unique loaded'
      obtain rfl := scenarioLoaded.unique scenarioLoaded'
      refine Or.inl ⟨putsOut, ?_⟩
      rw [← RunResult.failure_eq_none_iff]
      cases (command.result before.span graph scenario).failure? command.failOn <;> simp

theorem Ends.succeeds_iff {outcome : Except CommandError Unit}
    (ends : command.Ends before outcome after) :
    outcome = .ok () ↔ ∃ graph scenario, before.Holds command.graph graph ∧
      before.Holds command.scenario scenario ∧
      before.CanPutOut (command.text before.span graph scenario) command.output ∧
      (command.result before.span graph scenario).Passes command.failOn := by
  constructor
  · rintro rfl
    exact ends.passes
  · rintro ⟨graph, scenario, loaded, scenarioLoaded, can, passes⟩
    rcases ends.of_loaded loaded scenarioLoaded with ⟨_, judged⟩ | ⟨_, refuses⟩
    · exact judged.2 passes
    · exact absurd can refuses.cannot_put_out

theorem Ends.puts_out {outcome : Except CommandError Unit}
    (ends : command.Ends before outcome after) {graph : Graph} {scenario : Scenario}
    (loaded : before.Holds command.graph graph)
    (scenarioLoaded : before.Holds command.scenario scenario) :
    (before.CanPutOut (command.text before.span graph scenario) command.output →
        before.PutsOut after (command.text before.span graph scenario) command.output) ∧
      (¬ before.CanPutOut (command.text before.span graph scenario) command.output →
        before.Refuses after (command.text before.span graph scenario) command.output) := by
  rcases ends.of_loaded loaded scenarioLoaded with ⟨putsOut, _⟩ | ⟨_, refuses⟩
  · exact ⟨fun _ => putsOut, fun cannot => absurd putsOut.can_put_out cannot⟩
  · exact ⟨fun can => absurd can refuses.cannot_put_out, fun _ => refuses⟩

theorem Ends.of_not_loaded {outcome : Except CommandError Unit}
    (ends : command.Ends before outcome after)
    (missing : (∀ graph : Graph, ¬ before.Holds command.graph graph) ∨
      ∀ scenario : Scenario, ¬ before.Holds command.scenario scenario) :
    before.AlikeButLog after := by
  have notBoth {graph : Graph} {scenario : Scenario} (loaded : before.Holds command.graph graph)
      (scenarioLoaded : before.Holds command.scenario scenario) : False := by
    rcases missing with noGraph | noScenario
    · exact noGraph graph loaded
    · exact noScenario scenario scenarioLoaded
  cases ends with
  | noTopology _ alike => exact alike
  | noScenario _ _ alike => exact alike
  | refused loaded scenarioLoaded => exact (notBoth loaded scenarioLoaded).elim
  | judged loaded scenarioLoaded => exact (notBoth loaded scenarioLoaded).elim

theorem Ends.status_cases {outcome : Except CommandError Unit}
    (ends : command.Ends before outcome after) :
    (Ending.ofOutcome outcome).status = 0 ∨ (Ending.ofOutcome outcome).status = 1 ∨
      (Ending.ofOutcome outcome).status = 101 ∧ command.output = none := by
  cases ends with
  | noTopology | noScenario => exact Or.inr (Or.inl rfl)
  | refused =>
      unfold CommandError.notPutOut
      cases command.output with
      | none => exact Or.inr (Or.inr ⟨rfl, rfl⟩)
      | some path => exact Or.inr (Or.inl rfl)
  | @judged _ graph scenario =>
      cases judged : (command.result before.span graph scenario).failure? command.failOn with
      | none => exact Or.inl rfl
      | some failure =>
          rcases RunResult.failure_cases judged with ⟨reason, rfl⟩ | ⟨count, threshold, rfl⟩
          · exact Or.inr (Or.inl rfl)
          · exact Or.inr (Or.inl rfl)

end SimulateCommand

namespace CommandLine

section

variable [Readable Graph] [Readable Scenario] {environment : String → Option String}
  {arguments : List String} {command : SimulateCommand} {verbose : Bool}

theorem run_simulate
    (asked : Wish.read environment arguments = .ok (.run (.simulate command) verbose))
    (before : Machine σ) :
    ∃ outcome after, command.Ends before outcome after ∧
      (run environment arguments : StateM (Machine σ) Ending).run before =
        (.ofOutcome outcome, after) := by
  have onlyLogs := @Machine.only_logs_filtered σ _
    ((logFilter environment verbose).admits (Command.simulate command).logTarget)
  have ends := command.execute_ends onlyLogs before
  refine ⟨_, _, ends, ?_⟩
  unfold run
  rw [asked]
  rfl

/-- The command to simulate succeeds exactly if both documents load, the result can be put out, and
the run passes. Without both documents nothing is written. With both the result is put out if it can
be, whatever the command then makes of it. -/
theorem simulate_exit_status
    (asked : Wish.read environment arguments = .ok (.run (.simulate command) verbose))
    (before : Machine σ) :
    let ended := (run environment arguments : StateM (Machine σ) Ending).run before
    (ended.1.status = 0 ↔
        ∃ graph scenario, before.Holds command.graph graph ∧
          before.Holds command.scenario scenario ∧
          before.CanPutOut (command.text before.span graph scenario) command.output ∧
          (command.result before.span graph scenario).Passes command.failOn) ∧
      (ended.1.status = 0 ∨ ended.1.status = 1 ∨
        ended.1.status = 101 ∧ command.output = none) ∧
      ((∀ graph : Graph, ¬ before.Holds command.graph graph) ∨
          (∀ scenario : Scenario, ¬ before.Holds command.scenario scenario) →
        ended.2.files = before.files ∧ ended.2.output = before.output) ∧
      ∀ graph scenario, before.Holds command.graph graph →
        before.Holds command.scenario scenario →
        (before.CanPutOut (command.text before.span graph scenario) command.output →
          before.PutsOut ended.2 (command.text before.span graph scenario) command.output) ∧
        (¬ before.CanPutOut (command.text before.span graph scenario) command.output →
          before.Refuses ended.2 (command.text before.span graph scenario) command.output) := by
  obtain ⟨outcome, after, ends, ran⟩ := run_simulate asked before
  rw [ran]
  refine ⟨Ending.status_eq_zero_iff.trans ends.succeeds_iff, ends.status_cases, fun missing => ?_,
    fun graph scenario loaded scenarioLoaded => ends.puts_out loaded scenarioLoaded⟩
  have alike := ends.of_not_loaded missing
  exact ⟨alike.files, alike.output⟩

end

/-- A topology of one node, and a scenario in which it sends a flow to a node that is not there. The
topology stands outside of the working directory, the scenario above it. -/
def desk : Session :=
  let topology := "\x7b\"nodes\":[\x7b\"id\":\"pc\",\"type\":\"server\",\"label\":\"PC\"\x7d]," ++
    "\"links\":[]\x7d"
  let scenario := "\x7b\"id\":\"day\",\"name\":\"A day\",\"topologyId\":\"desk\",\"flows\":[" ++
    "\x7b\"id\":\"backup\",\"from\":\"pc\",\"to\":\"tape\",\"protocol\":\"tcp\"\x7d]\x7d"
  let files := FileTree.empty.addFile "/data/topology.json" topology.toUTF8
  let files := files.addFile "/home/scenario.json" scenario.toUTF8
  ⟨files, fun place => ⟨place, 0⟩, "", []⟩

def deskCommand : SimulateCommand where
  graph := "/data/topology.json"
  scenario := "../scenario.json"
  output := some "result.json"
  config := .default
  failOn := some .high

/-- The flow is not delivered, which is serious enough for the command to fail, but the result has
been written and is read back. -/
theorem simulate_exit_status_desk :
    let words := ["simulate", "--graph", "/data/topology.json", "--scenario", "../scenario.json",
      "--output", "result.json", "--fail-on", "high"]
    let ended := (run (fun _ => none) words : StateM Session Ending).run desk
    Wish.read (fun _ => none) words = .ok (.run (.simulate deskCommand) false) ∧
      ∃ graph scenario, desk.Holds "/data/topology.json" graph ∧
        desk.Holds "../scenario.json" scenario ∧ ended.1.status = 1 ∧
        ¬ (deskCommand.result desk.span graph scenario).Passes (some .high) ∧
        desk.PutsOut ended.2 (deskCommand.text desk.span graph scenario) (some "result.json") ∧
        ended.2.files.read? "result.json" =
          some (deskCommand.text desk.span graph scenario).toUTF8 := by
  intro words ended
  have asked : Wish.read (fun _ => none) words = .ok (.run (.simulate deskCommand) false) := by
    rfl
  have graphLoads : (Loadable.ofFile "/data/topology.json"
      (FileSystem.read? desk.files "/data/topology.json") :
        Except LoadError Graph).toOption.isSome = true := by
    decide +kernel
  have scenarioLoads : (Loadable.ofFile "../scenario.json"
      (FileSystem.read? desk.files "../scenario.json") :
        Except LoadError Scenario).toOption.isSome = true := by
    decide +kernel
  have writes : (FileSystem.write desk.files "result.json" .empty).1 = true := by decide +kernel
  have failed : ended.1.status = 1 := by decide +kernel
  obtain ⟨graph, graphHeld⟩ := Machine.exists_holds graphLoads
  obtain ⟨scenario, scenarioHeld⟩ := Machine.exists_holds scenarioLoads
  have can : desk.CanPutOut (deskCommand.text desk.span graph scenario) deskCommand.output :=
    (FileTree.write_succeeds_alike ..).trans writes
  obtain ⟨succeeds, _, _, puts⟩ := simulate_exit_status asked desk
  have putsOut := (puts graph scenario graphHeld scenarioHeld).1 can
  refine ⟨asked, graph, scenario, graphHeld, scenarioHeld, failed, fun passes => ?_, putsOut, ?_⟩
  · have success := succeeds.2 ⟨graph, scenario, graphHeld, scenarioHeld, can, passes⟩
    exact absurd (failed.symm.trans success) (by decide)
  · cases putsOut with
    | written written => exact FileTree.read_of_write written

end CommandLine

end NetworkTwin
