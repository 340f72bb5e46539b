import SspUpdate.CommandLine.Help
import SspUpdate.Text.Likeness

/-!
# Reports on command lines

What is said about a command line that is not carried out: the page or version
that it asks for, or the mistake in it, with advice where a word is like one
that would have been right.
-/

namespace SspUpdate.CommandLine

def Slot.text (scope : Scope) : Slot → String
  | .named arg => arg.usage
  | .operand => ((scope.operand?).map Operand.name).getD ""

def quote (text : String) : String := "'" ++ text ++ "'"

/-- A mistake, with lines below it and parts after an empty line. -/
def mistake (text : String) (below : List String) (parts : List String) : String :=
  let lines := ("error: " ++ text) :: below.map ("  " ++ ·)
  "\n\n".intercalate ("\n".intercalate lines :: parts ++ ["For more information, try '--help'.\n"])

/-- Advice on words that may have been meant. -/
def advice (kind : String) : List String → List String
  | [] => []
  | [word] => ["  tip: a similar " ++ kind ++ " exists: " ++ quote word]
  | words => ["  tip: some similar " ++ kind ++ "s exist: " ++ ", ".intercalate (words.map quote)]

def subcommandWords : List String := Subcommand.all.map Subcommand.word ++ ["help"]

/-- The named argument that may have been meant. -/
def Scope.meant? (l : Scope) (text : String) : Option Arg :=
  match text.toList with
  | '-' :: '-' :: name =>
    (Text.likeWords (String.ofList name) (l.args.map (·.form.long))).getLast?.bind l.long?
  | _ => none

/-- The usage with a named argument given. -/
def Scope.usageWith (l : Scope) (a : Arg) : String :=
  let operand := l.operand?.toList.map Operand.name
  " ".intercalate (l.words ++ [a.usage] ++ operand) ++ if l = .program then " <COMMAND>" else ""

def Scope.usagePart (l : Scope) : String := "Usage: " ++ l.usage

/-- Advice on an argument that a scope does not have, and the usage. -/
def unknownParts (l : Scope) (text : String) : List String :=
  match l.meant? text with
  | some arg => advice "argument" ["--" ++ arg.form.long] ++ ["Usage: " ++ l.usageWith arg]
  | none =>
    let asValue :=
      if text.startsWith "-" && l.operand?.isSome then
        ["  tip: to pass " ++ quote text ++ " as a value, use '-- " ++ text ++ "'"]
      else if l = .program && subcommandWords.contains text then
        ["  tip: subcommand " ++ quote text ++ " exists; to use it, remove the '--' before it"]
      else []
    asValue ++ [l.usagePart]

/-- The values that a slot may have, if they are few. -/
def Slot.values (scope : Scope) : Slot → List String
  | .named .nonInteractive => ["true", "false"]
  | .named _ => []
  | .operand => ((scope.operand?).map Operand.values).getD []

def noValue (scope : Scope) (slot : Slot) : String :=
  mistake ("a value is required for " ++ quote (slot.text scope) ++ " but none was supplied") [] []

/-- Why a text is no number of seconds. -/
def numberMistake (text : String) : String :=
  let digits := if text.startsWith "+" then text.toList.drop 1 else text.toList
  if text.isEmpty then "cannot parse integer from empty string"
  else if digits ≠ [] && digits.all Char.isDigit then "number too large to fit in target type"
  else "invalid digit found in string"

namespace Fault

/-- Whether the user asked for what is shown. -/
def isRequest : Fault → Bool
  | helpWanted _ | helpOnHelp | versionWanted _ => true
  | _ => false

def exitCode (f : Fault) : Nat := if f.isRequest then 0 else 2

def message (env : Environment) : Fault → String
  | helpWanted scope => scope.page env
  | helpOnHelp => helpPage
  | versionWanted scope => scope.version
  | nothingGiven => Scope.program.page env
  | missingSubcommand =>
    mistake (quote Shell.program ++ " requires a subcommand but one was not provided")
      ["[subcommands: " ++ ", ".intercalate subcommandWords ++ "]"] [Scope.program.usagePart]
  | unknownSubcommand text =>
    mistake ("unrecognized subcommand " ++ quote text) []
      (advice "subcommand" (Text.likeWords text subcommandWords) ++ [Scope.program.usagePart])
  | unknownArgument scope text =>
    mistake ("unexpected argument " ++ quote text ++ " found") [] (unknownParts scope text)
  | missingValue scope slot => noValue scope slot
  | badValue scope slot text =>
    let values := slot.values scope
    if values.isEmpty then noValue scope slot
    else
      mistake ("invalid value " ++ quote text ++ " for " ++ quote (slot.text scope))
        [possibleValues values] (advice "value" (Text.likeWords text values).getLast?.toList)
  | badNumber scope text =>
    let slot := quote ((Slot.named .resyncTimeout).text scope)
    mistake ("invalid value " ++ quote text ++ " for " ++ slot ++ ": " ++ numberMistake text) [] []
  | unwantedValue scope arg text =>
    mistake ("unexpected value " ++ quote text ++ " for " ++ quote arg.usage ++
      " found; no more were expected") [] ["Usage: " ++ scope.usageWith arg]
  | repeated scope arg =>
    mistake ("the argument " ++ quote arg.usage ++ " cannot be used multiple times") []
      [scope.usagePart]
  | conflicting scope =>
    mistake ("the argument " ++ quote Arg.resyncTimeout.usage ++ " cannot be used with " ++
      quote Arg.noResyncLimit.usage) [] ["Usage: " ++ scope.usageWith .resyncTimeout]
  | missingOperand scope =>
    let operand := Slot.operand.text scope
    mistake "the following required arguments were not provided:" [operand]
      ["Usage: " ++ " ".intercalate (scope.words ++ [operand])]

end Fault

end SspUpdate.CommandLine
