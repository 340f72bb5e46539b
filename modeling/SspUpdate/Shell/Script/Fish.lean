import SspUpdate.Shell.Level

/-!
# Completion for Fish

A `complete` command for each argument and each word that leads further, under
the condition that the words before lead to its level.
-/

namespace SspUpdate.Shell

open CommandLine

/-- An argument as it is described for parsing. -/
def fishSpec (a : Arg) : String :=
  let short := match a.form.short with
    | some c => c.toString ++ "/"
    | none => ""
  short ++ a.form.long ++ if a.form.value.isSome then "=" else ""

/-- The condition under which a level is completed. -/
def fishCondition : Level → String
  | .scope .program => "__fish_sspflash_needs_command"
  | .scope (.sub s) => "__fish_sspflash_using_subcommand " ++ s.word
  | .help =>
    "__fish_sspflash_using_subcommand help; and not __fish_seen_subcommand_from " ++
      " ".intercalate (Level.help.below.map Level.word)
  | .helpOn s =>
    "__fish_sspflash_using_subcommand help; and __fish_seen_subcommand_from " ++ Level.subWord s

def fishQuoted (text : String) : String :=
  quoted (fun c => if c = '\'' || c = '\\' then "\\" ++ c.toString else c.toString) text

def fishCommand (v : Level) : String :=
  "complete -c sspflash -n \"" ++ fishCondition v ++ "\""

/-- What is offered as the value of an argument. -/
def fishValue (a : Arg) : String :=
  if a.form.value.isNone then "" else if a = .config then " -r -F" else " -r"

def fishArg (v : Level) (a : Arg) : String :=
  let short := match a.form.short with
    | some c => " -s " ++ c.toString
    | none => ""
  fishCommand v ++ short ++ " -l " ++ a.form.long ++ " -d " ++ fishQuoted (v.aboutArg a) ++
    fishValue a

/-- The commands of a level. Files are offered only for operands. -/
def fishLevel (v : Level) : List String :=
  let noFiles := if v.operand?.isNone then " -f" else ""
  (v.options ++ v.flags).map (fishArg v) ++
    v.below.map fun w =>
      fishCommand v ++ noFiles ++ " -a \"" ++ w.word ++ "\" -d " ++ fishQuoted w.about

def fishScript : String :=
  lines (["# Print an optspec for argparse to handle cmd's options that are independent of any " ++
      "subcommand.",
    "function __fish_sspflash_global_optspecs",
    "\tstring join \\n " ++ " ".intercalate (Level.program.args.map fishSpec),
    "end",
    "",
    "function __fish_sspflash_needs_command",
    "\t# Figure out if the current invocation already has a command.",
    "\tset -l cmd (commandline -opc)",
    "\tset -e cmd[1]",
    "\targparse -s (__fish_sspflash_global_optspecs) -- $cmd 2>/dev/null",
    "\tor return",
    "\tif set -q argv[1]",
    "\t\t# Also print the command, so this can be used to figure out what it is.",
    "\t\techo $argv[1]",
    "\t\treturn 1",
    "\tend",
    "\treturn 0",
    "end",
    "",
    "function __fish_sspflash_using_subcommand",
    "\tset -l cmd (__fish_sspflash_needs_command)",
    "\ttest -z \"$cmd\"",
    "\tand return 1",
    "\tcontains -- $cmd[1] $argv",
    "end",
    ""] ++
  Level.program.withBelow.flatMap fishLevel)

end SspUpdate.Shell
