import NetworkTwin.CommandLine.Log
import NetworkTwin.FileTree
import NetworkTwin.Instant.Basic

/-!
What the commands need from around them: files, a clock, an output and a log. Whether it is the
machine or a state that stands for one makes no difference to a command.
-/

namespace NetworkTwin

/-- The surroundings of a command. Actions that may fail say whether they succeed. -/
class Host (m : Type → Type) where
  readFile : String → m (Option ByteArray)
  writeFile : String → String → m Bool
  makeDirectories : String → m Bool
  isPresent : String → m Bool
  now : m Instant
  print : String → m Bool
  log : LogLevel → String → m Unit

instance {ε : Type} {m : Type → Type} [Monad m] [Host m] : Host (ExceptT ε m) where
  readFile path := ExceptT.lift (Host.readFile path)
  writeFile path content := ExceptT.lift (Host.writeFile path content)
  makeDirectories path := ExceptT.lift (Host.makeDirectories path)
  isPresent path := ExceptT.lift (Host.isPresent path)
  now := ExceptT.lift Host.now
  print text := ExceptT.lift (Host.print text)
  log level message := ExceptT.lift (Host.log level message)

/-- Files behind their paths, standard output being one more. An action that may fail says whether
it succeeded, and leaves files in either case. -/
class FileSystem (σ : Type) where
  read? : σ → String → Option ByteArray
  write : σ → String → ByteArray → Bool × σ
  makeDirectories : σ → String → Bool × σ
  isPresent : σ → String → Bool
  print : σ → String → Bool × σ

/-- Surroundings as a state: files, the readings of the clock that are to come, and what was printed
and logged. -/
structure Machine (σ : Type) where
  files : σ
  clock : Nat → Instant
  output : String
  logged : List (LogLevel × String)

namespace Machine

variable {σ : Type} [FileSystem σ]

def changeFiles (machine : Machine σ) (changed : Bool × σ) : Bool × Machine σ :=
  (changed.1, { machine with files := changed.2 })

def keepOutput (machine : Machine σ) (text : String) (changed : Bool × σ) : Bool × Machine σ :=
  let output := if changed.1 then machine.output ++ text else machine.output
  (changed.1, { machine with files := changed.2, output := output })

instance : Host (StateM (Machine σ)) where
  readFile path := do return FileSystem.read? (← get).files path
  writeFile path content := fun machine =>
    machine.changeFiles (FileSystem.write machine.files path content.toUTF8)
  makeDirectories path := fun machine =>
    machine.changeFiles (FileSystem.makeDirectories machine.files path)
  isPresent path := do return FileSystem.isPresent (← get).files path
  now := fun machine =>
    (machine.clock 0, { machine with clock := fun place => machine.clock (place + 1) })
  print text := fun machine => machine.keepOutput text (FileSystem.print machine.files text)
  log level message := modify fun machine =>
    { machine with logged := machine.logged ++ [(level, message)] }

end Machine

/-- What a change has made of the files, if it could be made. -/
def FileTree.orUnchanged (tree : FileTree) (changed : Option FileTree) : Bool × FileTree :=
  match changed with
  | some files => (true, files)
  | none => (false, tree)

instance : FileSystem FileTree where
  read? := FileTree.read?
  write tree path content := tree.orUnchanged (tree.write? path content)
  makeDirectories tree path := tree.orUnchanged (tree.makeDirectories? path)
  isPresent := FileTree.isPresent
  print tree _ := (true, tree)

/-- Surroundings in memory. -/
abbrev Session := Machine FileTree

/-- A session with a clock that stands still. -/
def Session.start (files : FileTree) (clock : Instant) : Session := ⟨files, fun _ => clock, "", []⟩

end NetworkTwin
