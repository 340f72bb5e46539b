import SspUpdate.Shell

/-!
# The command line

The arguments of the program and of its four subcommands, as tables that the
reader of command lines, the help pages and the completion scripts share, and
what a command line asks for once it has been read.
-/

namespace SspUpdate

namespace CommandLine

/-- The named arguments. -/
inductive Arg where
  | port
  | address
  | verbose
  | quiet
  | nonInteractive
  | confirmPort
  | listAllPorts
  | config
  | resyncTimeout
  | noResyncLimit
  | json
  | install
  | help
  | version
  deriving DecidableEq, Repr

structure Arg.Form where
  long : String
  short : Option Char := none
  /-- What the value is called; without one the argument is a flag. -/
  value : Option String := none
  /-- The environment variable that stands in for the argument. -/
  env : Option String := none
  about : String

def Arg.form : Arg → Arg.Form
  | port =>
    { long := "port", short := some 'p', value := some "PORT", env := some "SSPFLASH_PORT"
      about := "Serial port to use (auto-detected if not specified)" }
  | address =>
    { long := "address", short := some 'a', value := some "ADDRESS"
      env := some "SSPFLASH_ADDRESS"
      about := "SSP address of the validator, decimal or 0x-prefixed hex [default: 0]" }
  | verbose =>
    { long := "verbose", short := some 'v'
      about := "Verbose output level (-v, -vv for increasing detail)" }
  | quiet =>
    { long := "quiet", short := some 'q', about := "Quiet mode (suppress non-essential output)" }
  | nonInteractive =>
    { long := "non-interactive", env := some "SSPFLASH_NON_INTERACTIVE"
      about := "Non-interactive mode (fail instead of prompting)" }
  | confirmPort =>
    { long := "confirm-port", about := "Confirm port selection even for auto-detected ports" }
  | listAllPorts =>
    { long := "list-all-ports", about := "Offer all available ports (including unknown types)" }
  | config =>
    { long := "config", value := some "PATH", about := "Path to a configuration file" }
  | resyncTimeout =>
    { long := "resync-timeout", value := some "SECS"
      about := "Seconds to wait for the validator to restart (0 = no limit)" }
  | noResyncLimit =>
    { long := "no-resync-limit"
      about := "Wait for the validator to restart without a time limit" }
  | json => { long := "json", about := "Output information as JSON to stdout" }
  | install =>
    { long := "install"
      about := "Automatically install completions to your shell configuration" }
  | help => { long := "help", short := some 'h', about := "Print help" }
  | version => { long := "version", short := some 'V', about := "Print version" }

inductive Subcommand where
  | update
  | info
  | listPorts
  | completions
  deriving DecidableEq, Repr

namespace Subcommand

def all : List Subcommand := [update, info, listPorts, completions]

def word : Subcommand → String
  | update => "update"
  | info => "info"
  | listPorts => "list-ports"
  | completions => "completions"

def about : Subcommand → String
  | update => "Update a validator with an ITL firmware image"
  | info => "Show information about a firmware image"
  | listPorts => "List available serial ports"
  | completions => "Generate shell completion scripts"

def ofWord? (text : String) : Option Subcommand := all.find? fun s => s.word = text

/-- The named arguments that only this subcommand has. -/
def ownArgs : Subcommand → List Arg
  | update => [.resyncTimeout, .noResyncLimit]
  | info => [.json]
  | listPorts => [.json]
  | completions => [.install]

end Subcommand

/-- The argument of a subcommand that has no name. -/
inductive Operand where
  | firmware
  | shell
  deriving DecidableEq, Repr

def Subcommand.operand? : Subcommand → Option Operand
  | update | info => some .firmware
  | listPorts => none
  | completions => some .shell

/-- Arguments belong to the program or to a subcommand. -/
inductive Scope where
  | program
  | sub (s : Subcommand)
  deriving DecidableEq, Repr

namespace Scope

/-- Arguments that may be given at every scope. -/
def globalArgs : List Arg :=
  [.port, .address, .verbose, .quiet, .nonInteractive, .confirmPort, .listAllPorts, .config]

/-- Arguments that may be given at this scope only. -/
def ownArgs : Scope → List Arg
  | program => []
  | sub s => s.ownArgs

def args (l : Scope) : List Arg := l.ownArgs ++ globalArgs ++ [.help, .version]

/-- What an argument does at a scope. -/
def aboutArg (l : Scope) (a : Arg) : String :=
  if l = sub .listPorts && a = .json then "Output port list as JSON to stdout" else a.form.about

def operand? : Scope → Option Operand
  | program => none
  | sub s => s.operand?

def long? (l : Scope) (name : String) : Option Arg := l.args.find? fun a => a.form.long = name

def short? (l : Scope) (letter : Char) : Option Arg :=
  l.args.find? fun a => a.form.short = some letter

/-- The words that lead to the scope. -/
def words : Scope → List String
  | program => [Shell.program]
  | sub s => [Shell.program, s.word]

end Scope

end CommandLine

/-- What every subcommand may be told. -/
structure Options where
  port : Option String := none
  address : Option String := none
  verbose : Nat := 0
  quiet : Bool := false
  nonInteractive : Bool := false
  confirmPort : Bool := false
  listAllPorts : Bool := false
  config : Option String := none
  deriving DecidableEq, Repr

/-- What the program is to do. -/
inductive Task where
  | update (firmware : String) (resyncTimeout : Option Nat) (noResyncLimit : Bool)
  | info (firmware : String) (json : Bool)
  | listPorts (json : Bool)
  | completions (shell : Option Shell) (install : Bool)
  deriving DecidableEq, Repr

structure Invocation where
  options : Options
  task : Task
  deriving DecidableEq, Repr

end SspUpdate
