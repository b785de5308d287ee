import NetworkTwin.CommandLine.Execution
import Std.Time.DateTime.Timestamp

/-!
The program: the command line on the machine.
-/

namespace NetworkTwin

def succeeds (action : IO Unit) : IO Bool := do
  match ← action.toBaseIO with
  | .ok () => return true
  | .error _ => return false

def presentTime : IO Instant := do
  let nanoseconds := (← Std.Time.Timestamp.now).toNanosecondsSinceUnixEpoch.val
  return ⟨nanoseconds.fdiv 1000000000, (nanoseconds.fmod 1000000000).toNat⟩

instance : Host IO where
  readFile path := do
    match ← (IO.FS.readBinFile path).toBaseIO with
    | .ok content => return some content
    | .error _ => return none
  writeFile path content := succeeds (IO.FS.writeFile path content)
  makeDirectories path :=
    if path.isEmpty then return true else succeeds (IO.FS.createDirAll path)
  isPresent path := do
    match ← (IO.FS.realPath path).toBaseIO with
    | .ok place => place.pathExists
    | .error _ => return false
  now := presentTime
  print text := succeeds do
    let output ← IO.getStdout
    output.putStr text
    output.flush
  log level message := do
    IO.eprintln ((← presentTime).render ++ " " ++ level.name ++ " " ++ message)

def Ending.report : Ending → IO Unit
  | .misused error => do
      IO.eprintln ("error: " ++ error.message)
      IO.eprintln "For more information, try '--help'."
  | .failed error => do
      IO.eprintln ("Error: " ++ error.message)
      match error.cause? with
      | some cause => IO.eprintln ("\nCaused by:\n    " ++ cause)
      | none => return ()
  | _ => return ()

def readEnvironment : IO (Dictionary String) := do
  let names := ["TWIN_GRAPH", "TWIN_SCENARIO", "TWIN_TIME_STEP", "TWIN_FAIL_ON",
    CommandLine.logVariable]
  names.foldlM (fun environment name => do
    match ← IO.getEnv name with
    | some value => return environment.insert name value
    | none => return environment) Dictionary.empty

end NetworkTwin

def main (arguments : List String) : IO UInt32 := do
  let environment ← NetworkTwin.readEnvironment
  let ending : NetworkTwin.Ending ←
    NetworkTwin.CommandLine.run environment.get? arguments
  ending.report
  return UInt32.ofNat ending.status
