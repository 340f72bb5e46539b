import SspUpdate.Program
import SspUpdate.Serial.Bench

/-!
# The executable

Takes what a run looks at from the machine: the environment, the files named
by the command line or used as configuration, and the terminal. Then it runs
the program on that and carries out what came of it. Keys are read as the
program asks for them: a run that found no key is repeated with what was typed
since. Serial lines are beyond plain input and output, so the machine is taken
to have none.
-/

namespace SspUpdate.Program

/-- The environment variables that a run may look at. -/
def variableNames : List String :=
  ["HOME", "XDG_CONFIG_HOME", "XDG_DATA_HOME", "SHELL", "PROFILE", "RUST_LOG", "RUST_LOG_STYLE",
    "NO_COLOR", "CLICOLOR", "CLICOLOR_FORCE", "TERM", "CI", "SSPFLASH_PORT", "SSPFLASH_ADDRESS",
    "SSPFLASH_NON_INTERACTIVE"]

def readEnvironment : IO Environment :=
  variableNames.filterMapM fun name => do return (← IO.getEnv name).map fun text => (name, text)

/-- The files that a run may look at. -/
def filesOf (i : Invocation) (env : Environment) : List String :=
  let named := match i.task with
    | .update firmware _ _ | .info firmware _ => [firmware]
    | .completions _ _ => Shell.all.filterMap fun shell => shell.scriptPath? env
    | .listPorts _ => []
  named ++ i.options.config.toList ++ [Config.localFile, Config.localPorts] ++
    (Config.globalFile? env).toList ++ (Config.globalPorts? env).toList ++
    (env.home?.map fun home => Path.join home ".zshrc").toList

/-- The text of a place in a tree of files. -/
def placeText (names : List String) : String := "/" ++ "/".intercalate names

/-- Takes over what is at one place of the machine. -/
def readPlace (f : Files) (names : List String) : IO Files := do
  let path := (← IO.currentDir) / placeText names
  if (f.node? names).isSome then return f
  else if ← path.isDir then return f.put names .directory
  else if ← path.pathExists then return f.put names (.file (← IO.FS.readBinFile path).toList)
  else return f

/-- Takes over a path and the directories on the way to it. -/
def readPath (f : Files) (path : String) : IO Files :=
  let names := Path.names (Path.join (placeText f.cwd) path)
  (List.range (names.length + 1)).foldlM (fun f n => readPlace f (Path.place (names.take n))) f

def readFiles (paths : List String) : IO Files := do
  let cwd := Path.names (← IO.currentDir).toString
  paths.foldlM readPath ⟨cwd, []⟩

/-- Writes what a run has changed. -/
def writeFiles (before after : Files) : IO Unit :=
  after.nodes.forM fun (names, node) => do
    if before.node? names ≠ some node then
      let path := placeText names
      match node with
      | .directory => IO.FS.createDirAll path
      | .file data => IO.FS.writeBinFile path ⟨data.toArray⟩

/-- Shows one piece of output. -/
def showOutput (showLog : LogLine → Option String) (o : Output) : IO Unit := do
  match o with
  | .out text => IO.print text
  | .err text | .shown text => IO.eprint text
  | .log line => IO.eprint ((showLog line).getD "")
  | .awaited => return

def patience : Nat := 1000000000000

/-- Runs the program with the keys typed so far, shows what is new in its
output, and goes on with more keys if it needs them. -/
partial def runWith (args : List String) (start : Station Serial.Bench)
    (showLog : LogLine → Option String) (keys : List Key) (shown : Nat) : IO UInt32 := do
  let terminal := start.terminal.map fun t => { t with keys }
  let ending := main args { start with terminal }
  let output := ending.station.output.reverse
  let (written, rest) := output.span (· ≠ .awaited)
  (written.drop shown).forM (showOutput showLog)
  let line ← if rest.isEmpty then pure "" else (← IO.getStdin).getLine
  if line.isEmpty then
    (rest.drop 1).forM (showOutput showLog)
    writeFiles start.files ending.station.files
    return UInt32.ofNat ending.code
  else runWith args start showLog (keys ++ Key.ofInput line.toList) written.length

end SspUpdate.Program

open SspUpdate in
def main (args : List String) : IO UInt32 := do
  let env ← Program.readEnvironment
  let invocation := (CommandLine.parse args env).toOption
  let options := (invocation.map (·.options)).getD {}
  let files ← Program.readFiles ((invocation.map fun i => Program.filesOf i env).getD [])
  let onTerminal := (← (← IO.getStdin).isTty) && (← (← IO.getStderr).isTty)
  let colors := (← (← IO.getStderr).isTty) && (env.get? "NO_COLOR").isNone
  let stamp := toString (← IO.monoMsNow)
  let start : Station Serial.Bench :=
    { env, files, colors, patience := Program.patience, output := []
      serial := .idle { devices := [] } false
      ports := .ok []
      terminal := if onTerminal then some { keys := [] } else none }
  let showLog := Program.showLog options env (← (← IO.getStderr).isTty) stamp
  Program.runWith args start showLog [] 0
