import NetworkTwin.CommandLine.Execution

/-!
Commands on a machine. What a task yields is followed from one of its actions to the next. Logging
leaves all of a machine alone but the log. Of the files nothing is supposed but what their actions
answer; in files that are held in memory, what is written is read back.
-/

namespace NetworkTwin

namespace FileTree

variable {tree written : FileTree} {path : String} {content : ByteArray}

theorem place_of_write (wrote : tree.write? path content = some written) :
    ∃ place, tree.place? path = some place ∧ place.mustBeDirectory = false ∧
      written = { tree with files := tree.files.insert (pathOf place.names) content } := by
  obtain ⟨place, leads, made⟩ := Option.bind_eq_some_iff.1 wrote
  split at made
  · cases made
  · rename_i free
    obtain ⟨insists, _⟩ := Bool.or_eq_false_iff.1 (Bool.eq_false_iff.2 free)
    exact ⟨place, leads, insists, (Option.some.inj made).symm⟩

/-- Paths are followed over directories alone, so they lead to the same places whatever files there
are. -/
theorem follow_with_files (tree : FileTree) (files : Dictionary ByteArray)
    (names parts : List String) :
    follow? { tree with files := files } names parts = tree.follow? names parts := by
  induction parts generalizing names with
  | nil => rfl
  | cons part rest induction =>
      simp only [follow?, induction]
      rfl

theorem place_with_files (tree : FileTree) (files : Dictionary ByteArray) (path : String) :
    place? { tree with files := files } path = tree.place? path := by
  simp only [place?, follow_with_files]
  rfl

theorem or_unchanged_eq_true_iff {changed : Option FileTree} :
    tree.orUnchanged changed = (true, written) ↔ changed = some written := by
  cases changed <;> simp [orUnchanged]

theorem write_succeeds_alike (tree : FileTree) (path : String) (content other : ByteArray) :
    (FileSystem.write tree path content).1 = (FileSystem.write tree path other).1 := by
  change (tree.orUnchanged (tree.write? path content)).1 =
    (tree.orUnchanged (tree.write? path other)).1
  unfold write?
  cases tree.place? path with
  | none => rfl
  | some place =>
      simp only [Option.bind_eq_bind, Option.bind_some]
      split <;> rfl

/-- What is written is read back. -/
theorem read_of_write (wrote : FileSystem.write tree path content = (true, written)) :
    FileSystem.read? written path = some content := by
  obtain ⟨place, leads, insists, rfl⟩ := place_of_write (or_unchanged_eq_true_iff.1 wrote)
  change read? _ path = some content
  unfold read?
  rw [place_with_files, leads]
  simp [insists, Dictionary.get?_insert]

end FileTree

variable {σ : Type}

namespace Machine

/-- Whether two machines are alike but for what they have logged. -/
structure AlikeButLog (before after : Machine σ) : Prop where
  files : after.files = before.files
  clock : after.clock = before.clock
  output : after.output = before.output

namespace AlikeButLog

theorem refl (machine : Machine σ) : machine.AlikeButLog machine := ⟨rfl, rfl, rfl⟩

theorem trans {first second third : Machine σ} (before : first.AlikeButLog second)
    (after : second.AlikeButLog third) : first.AlikeButLog third :=
  ⟨after.files.trans before.files, after.clock.trans before.clock,
    after.output.trans before.output⟩

end AlikeButLog

/-- Whether a logger does nothing but log. -/
def OnlyLogs (log : Logger (StateM (Machine σ))) : Prop :=
  ∀ level message (before : Machine σ), before.AlikeButLog ((log level message).run before).2

theorem only_logs_filtered [FileSystem σ] (admits : LogLevel → Bool) :
    OnlyLogs fun level message =>
      (if admits level then Host.log level message else pure () : StateM (Machine σ) Unit) := by
  intro level message before
  cases admitted : admits level with
  | true =>
      simp only [admitted, if_true]
      exact ⟨rfl, rfl, rfl⟩
  | false =>
      simp only [admitted, Bool.false_eq_true, if_false]
      exact .refl before

/-- The machine after its clock has been read. -/
def tick (machine : Machine σ) : Machine σ :=
  { machine with clock := fun place => machine.clock (place + 1) }

end Machine

namespace Task

variable {α β : Type} {holds : Except CommandError α → Machine σ → Prop} {before : Machine σ}

/-- Whether something holds of the outcome of a task and of the machine after it. -/
def Yields (task : Task (StateM (Machine σ)) α) (before : Machine σ)
    (holds : Except CommandError α → Machine σ → Prop) : Prop :=
  holds (task.run.run before).1 (task.run.run before).2

/-- One task after the other. An error of the first is the outcome of both. -/
theorem yields_bind {first : Task (StateM (Machine σ)) β}
    {next : β → Task (StateM (Machine σ)) α}
    (yields : Yields first before fun outcome after =>
      match outcome with
      | .ok value => Yields (next value) after holds
      | .error failure => holds (.error failure) after) :
    Yields (first >>= next) before holds := by
  have composed : (first >>= next).run.run before =
      match first.run.run before with
      | (.ok value, after) => (next value).run.run after
      | (.error failure, after) => (.error failure, after) := by
    rw [ExceptT.run_bind, StateT.run_bind]
    generalize first.run.run before = ended
    obtain ⟨outcome, after⟩ := ended
    cases outcome <;> rfl
  unfold Yields at yields ⊢
  rw [composed]
  cases ended : first.run.run before with
  | mk outcome after =>
      rw [ended] at yields
      cases outcome with
      | ok value => exact yields
      | error failure => exact yields

theorem yields_pure {value : α} (here : holds (.ok value) before) :
    Yields (pure value) before holds := here

theorem yields_throw {failure : CommandError} (here : holds (.error failure) before) :
    Yields (throw failure) before holds := here

theorem yields_lift {action : StateM (Machine σ) α}
    (here : holds (.ok (action.run before).1) (action.run before).2) :
    Yields (liftM action) before holds := here

section

variable [FileSystem σ]

theorem yields_read_file {path : String}
    {holds : Except CommandError (Option ByteArray) → Machine σ → Prop}
    (here : holds (.ok (FileSystem.read? before.files path)) before) :
    Yields (Host.readFile path) before holds := here

theorem yields_now {holds : Except CommandError Instant → Machine σ → Prop}
    (here : holds (.ok (before.clock 0)) before.tick) : Yields Host.now before holds := here

theorem yields_load [Loadable α] {path : String} {failure : LoadError → CommandError}
    (here : holds ((Loadable.ofFile path (FileSystem.read? before.files path)).mapError failure)
      before) :
    Yields (load α path failure) before holds := by
  unfold load
  refine yields_bind (yields_read_file ?_)
  dsimp only
  cases loaded :
    (Loadable.ofFile path (FileSystem.read? before.files path) : Except LoadError α) with
  | ok item =>
      rw [loaded] at here
      exact yields_pure here
  | error cause =>
      rw [loaded] at here
      exact yields_throw here

theorem yields_write_file {path text : String} {failure : CommandError}
    {holds : Except CommandError Unit → Machine σ → Prop}
    (wrote : ∀ files, FileSystem.write before.files path text.toUTF8 = (true, files) →
      holds (.ok ()) { before with files := files })
    (refused : ∀ files, FileSystem.write before.files path text.toUTF8 = (false, files) →
      holds (.error failure) { before with files := files }) :
    Yields (orFail (Host.writeFile path text) failure) before holds := by
  have acted : (Host.writeFile path text : StateM (Machine σ) Bool).run before =
      before.changeFiles (FileSystem.write before.files path text.toUTF8) := rfl
  unfold orFail
  refine yields_bind (yields_lift ?_)
  rw [acted]
  cases tried : FileSystem.write before.files path text.toUTF8 with
  | mk success files =>
      cases success with
      | false => exact yields_throw (refused files tried)
      | true => exact yields_pure (wrote files tried)

theorem yields_print {text : String} {failure : CommandError}
    {holds : Except CommandError Unit → Machine σ → Prop}
    (printed : ∀ files, FileSystem.print before.files text = (true, files) →
      holds (.ok ()) { before with files := files, output := before.output ++ text })
    (refused : ∀ files, FileSystem.print before.files text = (false, files) →
      holds (.error failure) { before with files := files }) :
    Yields (orFail (Host.print text) failure) before holds := by
  have acted : (Host.print text : StateM (Machine σ) Bool).run before =
      before.keepOutput text (FileSystem.print before.files text) := rfl
  unfold orFail
  refine yields_bind (yields_lift ?_)
  rw [acted]
  cases tried : FileSystem.print before.files text with
  | mk success files =>
      cases success with
      | false => exact yields_throw (refused files tried)
      | true => exact yields_pure (printed files tried)

end

theorem yields_log {log : Logger (StateM (Machine σ))} (onlyLogs : Machine.OnlyLogs log)
    {level : LogLevel} {message : String} {holds : Except CommandError Unit → Machine σ → Prop}
    (here : ∀ after, before.AlikeButLog after → holds (.ok ()) after) :
    Yields (liftM (log level message)) before holds :=
  here _ (onlyLogs level message before)

theorem yields_log_all {log : Logger (StateM (Machine σ))} (onlyLogs : Machine.OnlyLogs log)
    {lines : List (LogLevel × String)} {holds : Except CommandError PUnit → Machine σ → Prop}
    (here : ∀ after, before.AlikeButLog after → holds (.ok ⟨⟩) after) :
    Yields (forIn lines PUnit.unit fun line _ => do
      liftM (log line.1 line.2)
      pure (ForInStep.yield PUnit.unit)) before holds := by
  induction lines generalizing before with
  | nil => exact here before (.refl before)
  | cons line rest induction =>
      rw [List.forIn_cons]
      refine yields_bind (yields_bind (yields_log onlyLogs fun after alike => ?_))
      exact yields_pure (induction fun later alikeLater => here later (alike.trans alikeLater))

theorem yields_judged {log : Logger (StateM (Machine σ))} (onlyLogs : Machine.OnlyLogs log)
    {result : RunResult} {threshold : Option Severity}
    {holds : Except CommandError Unit → Machine σ → Prop}
    (here : ∀ later, before.AlikeButLog later → holds (match result.failure? threshold with
      | some failure => .error failure
      | none => .ok ()) later) :
    Yields (do
      for line in result.logLines do
        liftM (log line.1 line.2)
      match result.failure? threshold with
      | some failure => throw failure
      | none => return ()) before holds := by
  refine yields_bind (yields_log_all onlyLogs fun later alike => ?_)
  have judged := here later alike
  cases failed : result.failure? threshold with
  | none =>
      rw [failed] at judged
      exact yields_pure judged
  | some failure =>
      rw [failed] at judged
      exact yields_throw judged

end Task

end NetworkTwin
