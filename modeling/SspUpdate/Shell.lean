import SspUpdate.Config.Store

/-!
# Shells

The shells that completion scripts are made for, how the user's shell is
found out, and where each one looks for scripts.
-/

namespace SspUpdate

inductive Shell where
  | bash
  | elvish
  | fish
  | powershell
  | zsh
  deriving DecidableEq, Repr

namespace Shell

def all : List Shell := [bash, elvish, fish, powershell, zsh]

def name : Shell → String
  | bash => "Bash"
  | elvish => "Elvish"
  | fish => "Fish"
  | powershell => "PowerShell"
  | zsh => "Zsh"

/-- The shell as it is named on the command line. -/
def word : Shell → String
  | bash => "bash"
  | elvish => "elvish"
  | fish => "fish"
  | powershell => "powershell"
  | zsh => "zsh"

def ofWord? (text : String) : Option Shell := all.find? fun shell => shell.word = text

/-- The shell of a program, by the last name in its path. -/
def ofPath? (path : String) : Option Shell :=
  (Path.fileStem? path).bind fun stem =>
    if stem = "pwsh" then some powershell else ofWord? stem

/-- The user's shell. -/
def detect? (env : Environment) : Option Shell := (env.get? "SHELL").bind ofPath?

/-- The program that scripts complete. -/
def program : String := "sspflash"

/-- The name of the script's file. -/
def scriptName : Shell → String
  | bash => program
  | elvish => program ++ ".elv"
  | fish => program ++ ".fish"
  | powershell => program ++ ".ps1"
  | zsh => "_" ++ program

/-- Below the user's directory, where the function path of zsh has to lead. -/
def zshFunctions : String := ".zfunc"

/-- The directory of the script, for a user with a directory of their own. A
profile tells where scripts for PowerShell are. -/
def scriptDirectory (env : Environment) (home config data : String) : Shell → String
  | bash => Path.join (Path.join data "bash-completion") "completions"
  | elvish => Path.join (Path.join config "elvish") "lib"
  | fish => Path.join (Path.join config "fish") "completions"
  | zsh => Path.join home zshFunctions
  | powershell =>
    match env.get? "PROFILE" with
    | some profile => (Path.parent? profile).getD "."
    | none => Path.join (Path.join config "powershell") "completions"

/-- The file of the script. -/
def scriptPath? (env : Environment) (shell : Shell) : Option String := do
  let home ← env.home?
  let config ← env.configDirectory?
  let data ← env.dataDirectory?
  some (Path.join (shell.scriptDirectory env home config data) shell.scriptName)

end Shell

end SspUpdate
