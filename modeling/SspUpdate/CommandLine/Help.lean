import SspUpdate.CommandLine.Reader

/-!
# Help pages

The pages that `--help` shows.
-/

namespace SspUpdate.CommandLine

/-- Fills a text with blanks up to a width. -/
def pad (width : Nat) (text : String) : String :=
  text ++ String.ofList (List.replicate (width - text.length) ' ')

/-- A heading and rows below it: what is typed, and what that does. -/
def listing (heading : String) (rows : List (String × String)) : String :=
  let width := (rows.map fun r => r.1.length).foldl max 0
  heading ++ ":\n" ++ String.join (rows.map fun (typed, about) =>
    "  " ++ pad (width + 2) typed ++ about ++ "\n")

def Operand.name : Operand → String
  | firmware => "<FIRMWARE>"
  | shell => "[SHELL]"

def Operand.about : Operand → String
  | firmware => "Path to the firmware image"
  | shell => "Shell type for completions (auto-detected if not specified with --install)"

/-- The values that an operand may have, if they are few. -/
def Operand.values : Operand → List String
  | firmware => []
  | shell => Shell.all.map Shell.word

def possibleValues (values : List String) : String :=
  "[possible values: " ++ ", ".intercalate values ++ "]"

def Operand.row (o : Operand) : String × String :=
  (o.name, o.about ++ if o.values.isEmpty then "" else " " ++ possibleValues o.values)

/-- The argument as it is typed, with its value. One that counts may be repeated. -/
def Arg.usage (a : Arg) : String :=
  let value := match a.form.value with
    | some name => " <" ++ name ++ ">"
    | none => ""
  "--" ++ a.form.long ++ value ++ if a = .verbose then "..." else ""

def Arg.typed (a : Arg) : String :=
  match a.form.short with
  | some c => "-" ++ c.toString ++ ", " ++ a.usage
  | none => "    " ++ a.usage

/-- What an argument does, and what the environment says of it. -/
def Scope.row (l : Scope) (env : Environment) (a : Arg) : String × String :=
  let inherited := match a.form.env with
    | some name => " [env: " ++ name ++ "=" ++ (env.get? name).getD "" ++ "]"
    | none => ""
  (a.typed, l.aboutArg a ++ inherited)

/-- The place of an argument on the page, among those of its own kind. -/
def Scope.rank (l : Scope) (a : Arg) : Nat :=
  match l.ownArgs.idxOf? a with
  | some n => n
  | none => globalArgs.idxOf a

/-- By its letter, or else by its name. -/
def Arg.sortKey (a : Arg) : String :=
  match a.form.short with
  | some c => c.toLower.toString ++ if c.isLower then "0" else "1"
  | none => a.form.long

/-- The arguments in the order of the page. -/
def Scope.sortedArgs (l : Scope) : List Arg :=
  l.args.mergeSort fun a b =>
    l.rank a < l.rank b || (l.rank a = l.rank b && !(b.sortKey < a.sortKey))

/-- How the words of a scope go on. -/
def Scope.usage (l : Scope) : String :=
  let rest := match l, l.operand? with
    | .program, _ => " <COMMAND>"
    | .sub _, some operand => " " ++ operand.name
    | .sub _, none => ""
  " ".intercalate l.words ++ " [OPTIONS]" ++ rest

/-- Outcome codes share the low range with the codes of other failures, so 1
and 2 are ambiguous without the message. -/
def exitCodes : String :=
  "Exit codes:\n" ++
  "  0    success\n" ++
  "  1    file not found, or any other failure\n" ++
  "  2    firmware file unreadable, or usage error\n" ++
  "  3-9  update outcome (3 invalid file type, 4 port error, 5 no validator,\n" ++
  "       6 program command rejected, 7 timeout, 8 bad checksum,\n" ++
  "       9 device did not acknowledge)\n" ++
  "  130  cancelled\n"

def programAbout : String := "Command-line tool for updating ITL validator firmware over SSP"

def helpAbout : String := "Print this message or the help of the given subcommand(s)"

/-- A page has parts with an empty line between them. -/
def page (parts : List String) : String := "\n".intercalate parts

def usageLine (usage : String) : String := "Usage: " ++ usage ++ "\n"

/-- The help page of a scope. -/
def Scope.page (l : Scope) (env : Environment) : String :=
  let options := listing "Options" (l.sortedArgs.map (l.row env))
  let usage := usageLine l.usage
  match l with
  | .program =>
    let commands := Subcommand.all.map (fun s => (s.word, s.about)) ++ [("help", helpAbout)]
    CommandLine.page [programAbout ++ "\n", usage, listing "Commands" commands, options, exitCodes]
  | .sub s =>
    let operands := s.operand?.toList.map fun o => listing "Arguments" [o.row]
    CommandLine.page ([s.about ++ "\n", usage] ++ operands ++ [options])

/-- The page on how to get help. -/
def helpPage : String :=
  page [helpAbout ++ "\n", usageLine "sspflash help [COMMAND]...",
    listing "Arguments" [("[COMMAND]...", "Print help for the subcommand(s)")]]

def versionNumber : String := "0.2.0"

/-- What `--version` shows. -/
def Scope.version (l : Scope) : String := "-".intercalate l.words ++ " " ++ versionNumber ++ "\n"

end SspUpdate.CommandLine
