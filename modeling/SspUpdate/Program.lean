import SspUpdate.CommandLine.Report
import SspUpdate.Log.Filter
import SspUpdate.Log.Show
import SspUpdate.Program.Completions
import SspUpdate.Program.Flash

/-!
# The program

A run of the program reads the command line, loads the configuration and
carries out the subcommand. It ends with an exit code, after writing results
to the output and messages and log lines to the error output.
-/

namespace SspUpdate

namespace Program

variable {δ : Type} [Serial.Driver δ]

/-- Carries out what a command line asks for. -/
def run (i : Invocation) : StationM δ Unit := do
  let config ← Station.loadConfig i.options.config
  match i.task with
  | .update firmware resyncTimeout noResyncLimit =>
    update i.options config firmware resyncTimeout noResyncLimit
  | .info firmware json => info firmware json
  | .listPorts json => listPorts json
  | .completions shell install => completions shell install

/-- The log filter of a verbosity, unless the environment has one. -/
def logFilter (options : Options) (env : Environment) : LogFilter :=
  let level :=
    if options.quiet then "warn"
    else if options.verbose = 0 then "info"
    else if options.verbose = 1 then "debug"
    else "trace"
  LogFilter.ofString ((env.get? "RUST_LOG").getD level)

/-- Whether log lines show when and where they were written. -/
def detailed (options : Options) : Bool := 2 ≤ options.verbose

/-- What a run of the program came to. -/
structure Ending (δ : Type) where
  code : Nat
  station : Station δ

/-- The last line about a failure. -/
def farewell (f : Failure) : StationM δ Unit := do
  Station.say ((← Station.paint (.bold .red) "Error:") ++ " " ++ f.message)

/-- Writes what reading the filter found, then the first log line. -/
def openLog (options : Options) : StationM δ Unit := do
  (logFilter options (← get).env).warnings.forM fun w =>
    Station.say ("warning: " ++ w ++ ", ignoring it")
  Station.log .debug Target.program
    (Shell.program ++ " v" ++ CommandLine.versionNumber ++ s!" (verbose level: {options.verbose})")

/-- The station after an action that is not expected to fail. -/
def after (act : StationM δ Unit) (s : Station δ) : Station δ :=
  match act s with
  | .ok () s | .error _ s => s

/-- Runs the program on a command line. -/
def main (args : List String) (s : Station δ) : Ending δ :=
  match CommandLine.parse args s.env with
  | .error fault =>
    let text := fault.message s.env
    let shown := if fault.isRequest then Output.out text else .err text
    ⟨fault.exitCode, after (Station.emit shown) s⟩
  | .ok i =>
    match run i (after (openLog i.options) s) with
    | .ok () s => ⟨0, s⟩
    | .error f s => ⟨f.exitCode, after (farewell f) s⟩

/-- How log lines are shown under some options. -/
def showLog (options : Options) (env : Environment) (onTerminal : Bool) (stamp : String)
    (line : LogLine) : Option String :=
  if (logFilter options env).shows line then
    some (line.render (LogLine.colored env onTerminal)
      (if detailed options then some stamp else none))
  else none

end Program

end SspUpdate
