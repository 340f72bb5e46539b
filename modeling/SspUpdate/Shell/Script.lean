import SspUpdate.Shell.Script.Bash
import SspUpdate.Shell.Script.Elvish
import SspUpdate.Shell.Script.Fish
import SspUpdate.Shell.Script.PowerShell
import SspUpdate.Shell.Script.Zsh

/-!
# Completion scripts

Scripts that teach a shell to complete the program's subcommands and their
arguments. Each is made from the tables of the command line.
-/

namespace SspUpdate.Shell

/-- The completion script for a shell. -/
def script : Shell → String
  | bash => bashScript
  | elvish => elvishScript
  | fish => fishScript
  | powershell => powershellScript
  | zsh => zshScript

end SspUpdate.Shell
