import CatalogSearch.Command.Run
/-!
The program. It has no transport of its own, so no search server is ever reached; what a search would send is
shown by a dry run.
-/
namespace CatalogSearch.Program

def readFiles (paths : List String) : IO (List (String × String)) :=
  paths.filterMapM fun (path : String) =>
    try pure (some (path, ← IO.FS.readFile path)) catch _ => pure none

def readVariables : IO Environment :=
  Settings.variableNames.filterMapM fun name => do pure ((← IO.getEnv name).map fun value => (name, value))

def now : IO Stamp := do
  let (_, path) ← IO.FS.createTempFile
  let seconds := (← path.metadata).modified.sec
  IO.FS.removeFile path
  pure (Stamp.ofSeconds seconds.toNat)

def look : IO Surroundings := do
  let environment ← readVariables
  let first ← readFiles [Settings.environmentFile]
  let names := Settings.fileNames (Settings.fileName (Settings.environment (.ofFiles first) environment))
  let second := first ++ (← readFiles names)
  let places := match Settings.load (.ofFiles second) environment with
    | .ok settings => Directory.places settings.logging.fileDirectory
    | .error _ => []
  let directory := Directory.ofFiles (second ++ (← readFiles places))
  pure { directory, environment, server := fun _ => none, time := ← now }

def openLog (path : String) : IO Unit := do
  let parent := Directory.parent path
  if !parent.isEmpty then IO.FS.createDirAll parent
  let _ ← IO.FS.Handle.mk path .append

def runCommand (command : Command) : IO UInt32 := do
  let outcome := command.run (← look)
  outcome.logFile.forM openLog
  match outcome.printed with
  | .ok text =>
    IO.print text
    pure 0
  | .error failure =>
    IO.eprintln ("Error: " ++ failure.message)
    pure 1

end CatalogSearch.Program

open CatalogSearch in
def main (arguments : List String) : IO UInt32 := do
  match Command.read arguments with
  | .ok command => Program.runCommand command
  | .error .help =>
    IO.print Command.usage
    pure 0
  | .error .unusable =>
    IO.eprint Command.usage
    pure 2
