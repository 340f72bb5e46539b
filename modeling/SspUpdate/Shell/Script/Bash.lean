import SspUpdate.Shell.Level

/-!
# Completion for Bash

A function goes through the words, notes the level that they lead to, and offers
the words of that level. For the value of an option it offers files.
-/

namespace SspUpdate.Shell

open CommandLine

/-- The name of a level in the script. -/
def bashName (v : Level) : String :=
  "__subcmd__".intercalate (v.words.map fun w => w.replace "-" "__")

def bashOperand (o : Operand) : List String := if o.values.isEmpty then [o.name] else o.values

/-- All that can be typed at a level. -/
def bashWords (v : Level) : String :=
  " ".intercalate (v.args.filterMap shortWord? ++ v.args.map longWord ++
    v.operand?.toList.flatMap bashOperand ++ v.below.map Level.word)

/-- The words that lead from one level to those below it. -/
def bashSteps (v : Level) : List String :=
  let below := v.below.mergeSort fun a b => !(b.word < a.word)
  below.flatMap fun w =>
    ["            " ++ bashName v ++ "," ++ w.word ++ ")",
      "                cmd=\"" ++ bashName w ++ "\"",
      "                ;;"]

/-- What is offered behind an option. -/
def bashValues (a : Arg) : List String :=
  (longWord a :: (shortWord? a).toList).flatMap fun w =>
    ["                " ++ w ++ ")",
      "                    COMPREPLY=($(compgen -f \"$\x7bcur\x7d\"))",
      "                    return 0",
      "                    ;;"]

/-- What is offered at a level. -/
def bashLevel (v : Level) : List String :=
  let offer := "COMPREPLY=( $(compgen -W \"$\x7bopts\x7d\" -- \"$\x7bcur\x7d\") )"
  ["        " ++ bashName v ++ ")",
    "            opts=\"" ++ bashWords v ++ "\"",
    "            if [[ $\x7bcur\x7d == -* || $\x7bCOMP_CWORD\x7d -eq " ++
      toString v.words.length ++ " ]] ; then",
    "                " ++ offer,
    "                return 0",
    "            fi",
    "            case \"$\x7bprev\x7d\" in"] ++
  v.options.flatMap bashValues ++
  ["                *)",
    "                    COMPREPLY=()",
    "                    ;;",
    "            esac",
    "            " ++ offer,
    "            return 0",
    "            ;;"]

def bashScript : String :=
  lines (["_sspflash() \x7b",
    "    local i cur prev opts cmd",
    "    COMPREPLY=()",
    "    if [[ \"$\x7bBASH_VERSINFO[0]\x7d\" -ge 4 ]]; then",
    "        cur=\"$2\"",
    "    else",
    "        cur=\"$\x7bCOMP_WORDS[COMP_CWORD]\x7d\"",
    "    fi",
    "    prev=\"$3\"",
    "    cmd=\"\"",
    "    opts=\"\"",
    "",
    "    for i in \"$\x7bCOMP_WORDS[@]:0:COMP_CWORD\x7d\"",
    "    do",
    "        case \"$\x7bcmd\x7d,$\x7bi\x7d\" in",
    "            \",$1\")",
    "                cmd=\"sspflash\"",
    "                ;;"] ++
  bashSteps .program ++ bashSteps .help ++
  ["            *)",
    "                ;;",
    "        esac",
    "    done",
    "",
    "    case \"$\x7bcmd\x7d\" in"] ++
  (Level.program :: Level.sorted).flatMap bashLevel ++
  ["    esac",
    "\x7d",
    "",
    "if [[ \"$\x7bBASH_VERSINFO[0]\x7d\" -eq 4 && \"$\x7bBASH_VERSINFO[1]\x7d\" -ge 4 || " ++
      "\"$\x7bBASH_VERSINFO[0]\x7d\" -gt 4 ]]; then",
    "    complete -F _sspflash -o nosort -o bashdefault -o default sspflash",
    "else",
    "    complete -F _sspflash -o bashdefault -o default sspflash",
    "fi"])

end SspUpdate.Shell
