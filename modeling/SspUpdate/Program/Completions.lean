import SspUpdate.Shell.Script
import SspUpdate.Station
import SspUpdate.Text.Search

/-!
# Installing completion scripts

The subcommand that writes a completion script, to the output or where the
shell looks for it. For zsh the startup file has to lead there too.
-/

namespace SspUpdate.Program

variable {δ : Type}

/-- The line of the zsh startup file that leads to the scripts. -/
def fpathLine : String := "fpath=(~/.zfunc $fpath)"

/-- What is added to the startup file when the line is missing. -/
def fpathLines : String :=
  "\n# sspflash completions\n" ++ fpathLine ++ "\nautoload -Uz compinit && compinit\n"

/-- Whether a startup file has the line; one that is no text has not. -/
def hasFpath (files : Files) (path : String) : Bool :=
  match files.readText path with
  | .ok text => Text.occursIn fpathLine.toList text.toList
  | .error _ => false

/-- Makes sure that the startup file of zsh leads to the scripts. -/
def ensureFpath : StationM δ Unit := do
  let s ← get
  match s.env.home? with
  | none => return
  | some home =>
    let path := Path.join home ".zshrc"
    if !hasFpath s.files path then
      let files ← Station.within ("Failed to update " ++ path)
        (Station.ofExcept (fun e : FileFault => .other e.message)
          (s.files.append path (Bytes.ofText fpathLines)))
      modify fun s => { s with files }
      let tick ← Station.paint (.bold .green) "✓"
      Station.say (tick ++ " Added fpath to " ++ (← Station.paint (.plain .yellow) path))

/-- Changes the files; a fault fails within a context. -/
def changeFiles (context : String) (change : Files → Except FileFault Files) :
    StationM δ Unit := do
  let files ← Station.within context
    (Station.ofExcept (fun e : FileFault => .other e.message) (change (← get).files))
  modify fun s => { s with files }

/-- Says how the script comes into effect. -/
def explain (shell : Shell) (path : String) : StationM δ Unit := do
  match shell with
  | .bash =>
    Station.say ("To activate now: " ++ (← Station.paint (.plain .cyan) ("source " ++ path)))
  | .zsh =>
    ensureFpath
    Station.say ("Restart your shell or run: " ++ (← Station.paint (.plain .cyan) "exec zsh"))
  | .powershell =>
    Station.say "Add this to your PowerShell profile to load on startup:"
    Station.say ("  " ++ (← Station.paint (.plain .cyan) ("Import-Module " ++ path)))
  | .elvish | .fish =>
    Station.say "Completions will be loaded automatically in new sessions."

def unknownShell : String :=
  "Could not detect your shell. Please specify it explicitly:\n" ++
    "  sspflash completions --install bash"

/-- Writes the script where the shell looks for it. -/
def installCompletions (wanted : Option Shell) : StationM δ Unit := do
  let env := (← get).env
  let shell ← match wanted <|> Shell.detect? env with
    | some shell => pure shell
    | none => Station.raise (.other unknownShell)
  let path ← match shell.scriptPath? env with
    | some path => pure path
    | none => Station.raise (.other "Could not determine home directory")
  if let some dir := Path.parent? path then
    changeFiles ("Failed to create directory: " ++ dir) fun files => files.ensureDirectory dir
  changeFiles ("Failed to write completion file: " ++ path) fun files =>
    files.write path (Bytes.ofText shell.script)
  let tick ← Station.paint (.bold .green) "✓"
  Station.say (tick ++ " Installed " ++ (← Station.paint (.plain .cyan) shell.name) ++
    " completions to " ++ (← Station.paint (.plain .yellow) path))
  Station.say ""
  explain shell path

def shellWanted : String :=
  "specify a shell type, e.g. \x60sspflash completions bash\x60, " ++
    "or use \x60sspflash completions --install\x60"

/-- Writes or installs a completion script. -/
def completions (shell : Option Shell) (install : Bool) : StationM δ Unit := do
  if install then installCompletions shell
  else match shell with
    | some shell => Station.emit (.out shell.script)
    | none => Station.raise (.usage shellWanted)

end SspUpdate.Program
