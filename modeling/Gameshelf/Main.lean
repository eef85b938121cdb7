import Gameshelf.CommandLine.Run
import Gameshelf.Disk.Change

/-!
The program. It gathers what a run asks the machine for, the environment and the parts of the disk that
the settings name, and prints what comes of the run. Listening for requests is not its work: it ends by
saying where a server is to listen.
-/

namespace Gameshelf.Program

open CommandLine

/-- The variables that settings are read from. -/
def variableNames : List String :=
  Settings.fileVariable :: Settings.publicVariables ++ Settings.fieldVariables.map Prod.fst

/-- The environment, as far as settings are read from it. -/
def readEnvironment : IO Settings.Environment :=
  variableNames.filterMapM fun name => do
    return (← IO.getEnv name).map fun value => (name, (value : LooseText))

/-- What stands at a path of the machine, links on the way followed; directories with all that is in
them. What files of a directory hold is left out, since a scan asks for their names alone. -/
partial def readNode (path : String) (whole : Bool) : IO (Option Node) := do
  let there := System.mkFilePath [path]
  if !(← there.pathExists) then return none
  if ← there.isDir then
    let entries ← (← there.readDir).toList.filterMapM fun entry => do
      let inner := entry.path.toString
      let node : Option Node ← match (← entry.path.symlinkMetadata).type with
        | .symlink => pure (some (.link (Encoding.utf8 (← IO.FS.realPath inner).toString)))
        | .dir => readNode inner false
        | .file => pure (some (.file []))
        | .other => pure (some .special)
      return node.map (FileName.ofString entry.fileName, ·)
    return some (.directory entries)
  else if whole then return some (.file (← IO.FS.readBinFile path).toList)
  else return some (.file [])

/-- A disk with what stands at a path of the machine. Directories on the way are made as needed. -/
def gather (disk : Disk) (path : Path) : IO Disk := do
  match ← readNode (toString path) true with
  | none => return disk
  | some node =>
    let above := ((Change.makeDirectories path.parent).make disk).2
    match above.locate .target path.parent with
    | .ok place => return above.put (place ++ [.ofString path.name.shown]) node
    | .error _ => return above

/-- The parts of the machine's disk that a command line asks for. -/
def readDisk (environment : Settings.Environment) (arguments : Arguments) : IO Disk := do
  let here := Path.ofText (← IO.currentDir).toString
  let empty : Disk := ⟨.directory [], here.names.map fun name => .ofString name.shown⟩
  let sources : Settings.Sources := ⟨arguments.config.value?, environment, arguments.values⟩
  let standing := ((Change.makeDirectories here).make empty).2
  let configured ← match sources.filePath with
    | some path => gather standing path
    | none => pure standing
  match Settings.load configured sources with
  | .error _ => return configured
  | .ok settings =>
    let stocked ← gather configured settings.libraryRoot
    match settings.authFile with
    | some path => gather stocked path
    | none => return stocked

def helpText : String :=
  let line (flag : Flag) : String := "  " ++ ", ".intercalate flag.spellings ++ "  " ++ flag.help
  "\n".intercalate
    (["usage: foilshop [options]", "", "Serve a game-content library over HTTP", "", "options:"]
      ++ Flag.all.map line)

/-- Prints what came of a run, and gives the exit status. -/
def conclude : Except Stop Outcome → IO UInt32
  | .error .help => do
    IO.println helpText
    return 0
  | .error (.usage error) => do
    IO.eprintln (usageMessage error)
    return 2
  | .error (.crash crash) => do
    IO.eprintln s!"crashed: {crash.message}"
    return 1
  | .ok outcome => do
    for message in outcome.messages do
      IO.eprintln s!"{message.level.name} {message.text}"
    for (host, port) in outcome.listens do
      IO.println s!"open at {host}, port {port}"
    return UInt32.ofNat outcome.exit

end Gameshelf.Program

open Gameshelf in
def main (words : List String) : IO UInt32 := do
  let environment ← Program.readEnvironment
  let disk ← match CommandLine.Arguments.ofWords words with
    | .ok arguments => Program.readDisk environment arguments
    | .error _ => pure ⟨.directory [], []⟩
  Program.conclude (CommandLine.run disk environment words)
