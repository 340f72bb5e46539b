import SspUpdate.Shell.Level

/-!
# Completion for Zsh

A description of the arguments at each level, and a function for each level that
names the words that lead further.
-/

namespace SspUpdate.Shell

open CommandLine

/-- A text as part of a description. -/
def zshEscaped (escaped : List Char) (text : String) : String :=
  String.join (text.toList.map fun c =>
    if c = '\'' then "'\\''" else if escaped.contains c then "\\" ++ c.toString else c.toString)

def zshAbout (text : String) : String := zshEscaped ['\\', '[', ']', ':', '$', '\x60'] text

/-- The function for the words below a level. -/
def zshFunction (v : Level) : String :=
  "_" ++ "__subcmd__".intercalate v.words ++ "_commands"

/-- What is offered as the value of an argument. -/
def zshValue (a : Arg) : String :=
  match a.form.value with
  | some name => ":" ++ name ++ ":" ++ if a = .config then "_files" else "_default"
  | none => ""

/-- The arguments that one is not offered along with, and whether it may be repeated. -/
def zshBefore : Arg → String
  | .noResyncLimit => "(--resync-timeout)"
  | .verbose => "*"
  | _ => ""

def zshArg (v : Level) (a : Arg) : List String :=
  let described := "[" ++ zshAbout (v.aboutArg a) ++ "]" ++ zshValue a ++ "' \\"
  let taking := a.form.value.isSome
  let short := (shortWord? a).map (· ++ if taking then "+" else "")
  (short.toList ++ [longWord a ++ if taking then "=" else ""]).map fun w =>
    "'" ++ zshBefore a ++ w ++ described

def zshOperand : Operand → String
  | .firmware =>
    "':firmware -- " ++ zshEscaped ['[', ']', ':'] Operand.firmware.about ++ ":_files' \\"
  | .shell =>
    "'::shell -- " ++ zshEscaped ['[', ']', ':'] Operand.shell.about ++ ":(" ++
      " ".intercalate Operand.shell.values ++ ")' \\"

/-- The description of the arguments at a level. -/
def zshArguments (v : Level) : List String :=
  ["_arguments \"$\x7b_arguments_options[@]\x7d\" : \\"] ++
  v.options.flatMap (zshArg v) ++ v.flags.flatMap (zshArg v) ++
  v.operand?.toList.map zshOperand ++
  (if v.below.isEmpty then [] else
    ["\":: :" ++ zshFunction v ++ "\" \\", "\"*::: :->" ++ v.word ++ "\" \\"]) ++
  ["&& ret=0"]

/-- The choice of the level below, where its lines are known. -/
def zshChoice (v : Level) (linesOf : Level → List String) : List String :=
  ["    case $state in",
    "    (" ++ v.word ++ ")",
    "        words=($line[1] \"$\x7bwords[@]\x7d\")",
    "        (( CURRENT += 1 ))",
    "        curcontext=\"$\x7bcurcontext%:*:*\x7d:" ++ v.path "-" ++ "-command-$line[1]:\"",
    "        case $line[1] in"] ++
  v.below.flatMap (fun w => ["(" ++ w.word ++ ")"] ++ linesOf w ++ [";;"]) ++
  ["        esac",
    "    ;;",
    "esac"]

def zshLevels : List String :=
  zshArguments .program ++ zshChoice .program fun v =>
    zshArguments v ++ if v.below.isEmpty then [] else [""] ++ zshChoice v zshArguments

/-- The function that names the words below a level. -/
def zshCommands (v : Level) : List String :=
  let words := v.below.map fun w => "'" ++ w.word ++ ":" ++ zshAbout w.about ++ "' \\"
  let named := if words.isEmpty then ["    local commands; commands=()"]
    else ["    local commands; commands=("] ++ words ++ ["    )"]
  ["(( $+functions[" ++ zshFunction v ++ "] )) ||",
    zshFunction v ++ "() \x7b"] ++
  named ++
  ["    _describe -t commands '" ++ v.path " " ++ " commands' commands \"$@\"",
    "\x7d"]

def zshScript : String :=
  lines (["#compdef sspflash",
    "",
    "autoload -U is-at-least",
    "",
    "_sspflash() \x7b",
    "    typeset -A opt_args",
    "    typeset -a _arguments_options",
    "    local ret=1",
    "",
    "    if is-at-least 5.2; then",
    "        _arguments_options=(-s -S -C)",
    "    else",
    "        _arguments_options=(-s -C)",
    "    fi",
    "",
    "    local context curcontext=\"$curcontext\" state line"] ++
  zshLevels ++
  ["\x7d",
    ""] ++
  (Level.program :: Level.sorted).flatMap zshCommands ++
  ["",
    "if [ \"$funcstack[1]\" = \"_sspflash\" ]; then",
    "    _sspflash \"$@\"",
    "else",
    "    compdef _sspflash sspflash",
    "fi"])

end SspUpdate.Shell
