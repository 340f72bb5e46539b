import SspUpdate.CommandLine

/-!
# Reading command lines

Arguments are read from left to right. A value that follows its argument is
held back until the next argument has been looked at, so that a mistake in the
next one is told first. After two dashes everything is an operand. Where the
name of a subcommand can stand, the rest belongs to that subcommand, and its
mistakes are told before those of the program.
-/

namespace SspUpdate.CommandLine

/-- What a value is given for. -/
inductive Slot where
  | named (arg : Arg)
  | operand
  deriving DecidableEq, Repr

/-- Why a command line is not carried out. -/
inductive Fault where
  | helpWanted (scope : Scope)
  /-- Help on how to get help. -/
  | helpOnHelp
  | versionWanted (scope : Scope)
  | nothingGiven
  | missingSubcommand
  | unknownSubcommand (text : String)
  | unknownArgument (scope : Scope) (text : String)
  | missingValue (scope : Scope) (slot : Slot)
  | badValue (scope : Scope) (slot : Slot) (text : String)
  | badNumber (scope : Scope) (text : String)
  | unwantedValue (scope : Scope) (arg : Arg) (text : String)
  | repeated (scope : Scope) (arg : Arg)
  | conflicting (scope : Scope)
  | missingOperand (scope : Scope)
  deriving DecidableEq, Repr

/-- A number of seconds: decimal digits, a plus sign may come first. -/
def seconds? (text : String) : Option Nat :=
  let digits := match text.toList with
    | '+' :: rest => rest
    | cs => cs
  if digits ≠ [] ∧ digits.all Char.isDigit then
    let n := Nat.ofDigitChars 10 digits 0
    if n < UInt64.size then some n else none
  else none

/-- What is wrong with a value, if anything. -/
def check (scope : Scope) (slot : Slot) (text : String) : Except Fault Unit :=
  match slot with
  | .named .config => if text.isEmpty then .error (.badValue scope slot text) else .ok ()
  | .named .resyncTimeout =>
    if (seconds? text).isSome then .ok () else .error (.badNumber scope text)
  | .named _ => .ok ()
  | .operand =>
    match scope.operand? with
    | some .firmware => if text.isEmpty then .error (.badValue scope slot text) else .ok ()
    | some .shell =>
      if (Shell.ofWord? text).isSome then .ok () else .error (.badValue scope slot text)
    | none => .ok ()

/-- How far a scope has been read. -/
structure Scan where
  /-- What was given and found right, with the value of what takes one. -/
  given : List (Slot × String) := []
  /-- What was read last, with its value unless that is still to come. -/
  pending : Option (Slot × Option String) := none
  operandSeen : Bool := false
  /-- Two dashes were read. -/
  trailing : Bool := false

namespace Scan

def has (s : Scan) (slot : Slot) : Bool := s.given.any fun g => g.1 = slot

/-- Adds what was given; only the verbosity may be given more than once. -/
def store (scope : Scope) (slot : Slot) (text : String) (s : Scan) : Except Fault Scan := do
  match slot with
  | .named arg => if arg ≠ .verbose && s.has slot then throw (.repeated scope arg)
  | .operand => pure ()
  check scope slot text
  return { s with given := s.given ++ [(slot, text)] }

/-- Adds what was held back. -/
def settle (scope : Scope) (s : Scan) : Except Fault Scan :=
  match s.pending with
  | none => .ok s
  | some (slot, none) => .error (.missingValue scope slot)
  | some (slot, some text) => ({ s with pending := none } : Scan).store scope slot text

/-- Whether the next argument is looked at as a value first. -/
def awaitsValue (s : Scan) : Bool :=
  match s.pending with
  | some (_, none) => true
  | _ => false

/-- Reads an argument that takes no value. -/
def flag (scope : Scope) (arg : Arg) (s : Scan) : Except Fault Scan := do
  let s ← s.settle scope
  match arg with
  | .help => throw (.helpWanted scope)
  | .version => throw (.versionWanted scope)
  | _ => s.store scope (.named arg) ""

/-- Reads an argument with the value attached to it, or to come. -/
def option (scope : Scope) (arg : Arg) (value : Option String) (s : Scan) :
    Except Fault Scan := do
  let s ← s.settle scope
  match value with
  | some text => s.store scope (.named arg) text
  | none => return { s with pending := some (.named arg, none) }

/-- Reads the letters after a single dash. -/
def letters (scope : Scope) : List Char → Scan → Except Fault Scan
  | [], s => .ok s
  | c :: rest, s =>
    match scope.short? c with
    | none => .error (.unknownArgument scope ("-" ++ c.toString))
    | some arg =>
      match arg.form.value, rest with
      | none, _ => do letters scope rest (← s.flag scope arg)
      | some _, [] => s.option scope arg none
      | some _, '=' :: text => s.option scope arg (some (String.ofList text))
      | some _, text => s.option scope arg (some (String.ofList text))

/-- Splits a text at its first equals sign. -/
def splitEquals (text : List Char) : List Char × Option (List Char) :=
  match text.dropWhile (· ≠ '=') with
  | [] => (text, none)
  | _ :: value => (text.takeWhile (· ≠ '='), some value)

/-- Reads what follows two dashes in the same argument. -/
def long (scope : Scope) (text : List Char) (s : Scan) : Except Fault Scan :=
  let (name, value) := splitEquals text
  match scope.long? (String.ofList name) with
  | none => .error (.unknownArgument scope ("--" ++ String.ofList name))
  | some arg =>
    if arg.form.value.isSome then s.option scope arg (value.map String.ofList)
    else match value with
      | some text => .error (.unwantedValue scope arg (String.ofList text))
      | none => s.flag scope arg

/-- Reads an argument that stands for itself. -/
def operand (scope : Scope) (text : String) (s : Scan) : Except Fault Scan := do
  if scope.operand?.isSome && !s.operandSeen then
    let s ← s.settle scope
    return { s with pending := some (.operand, some text), operandSeen := true }
  else match scope with
    | .program =>
      let isSubcommand := (Subcommand.ofWord? text).isSome || text = "help"
      throw (if s.trailing && isSubcommand then .unknownArgument scope text
        else .unknownSubcommand text)
    | .sub _ => throw (.unknownArgument scope text)

/-- What an argument looks like. -/
inductive Shape where
  | dashes
  | long (text : List Char)
  | letters (text : List Char)
  | plain

def shape (arg : String) : Shape :=
  match arg.toList with
  | ['-', '-'] => .dashes
  | '-' :: '-' :: text => .long text
  | ['-'] => .plain
  | '-' :: text => .letters text
  | _ => .plain

/-- Reads one argument. -/
def next (scope : Scope) (arg : String) (s : Scan) : Except Fault Scan :=
  if s.trailing then s.operand scope arg
  else match shape arg with
    | .dashes => .ok { s with trailing := true }
    | .long text => s.long scope text
    | .letters text => s.letters scope text
    | .plain =>
      match s.pending with
      | some (slot, none) => .ok { s with pending := some (slot, some arg) }
      | _ => s.operand scope arg

/-- The page that the words after `help` ask for. -/
def helpFor : List String → Fault
  | [] => .helpWanted .program
  | [word] =>
    match Subcommand.ofWord? word with
    | some s => .helpWanted (.sub s)
    | none => if word = "help" then .helpOnHelp else .unknownSubcommand word
  | word :: other :: _ =>
    if (Subcommand.ofWord? word).isSome || word = "help" then .unknownSubcommand other
    else .unknownSubcommand word

/-- Reads the arguments of a subcommand. -/
def all (scope : Scope) : List String → Scan → Except Fault Scan
  | [], s => .ok s
  | arg :: rest, s => do all scope rest (← s.next scope arg)

/-- Reads the program's arguments up to the subcommand. -/
def upToSubcommand : List String → Scan → Except Fault (Scan × Option (Subcommand × List String))
  | [], s => .ok (s, none)
  | arg :: rest, s =>
    if s.trailing || s.awaitsValue then do upToSubcommand rest (← s.next .program arg)
    else if arg = "help" then .error (helpFor rest)
    else match Subcommand.ofWord? arg with
      | some sub => .ok (s, some (sub, rest))
      | none => do upToSubcommand rest (← s.next .program arg)

end Scan

/-- What a scope was given on the command line and in the environment. -/
structure Given where
  values : List (Slot × String)
  env : List (Arg × String)

namespace Given

/-- The variables that stand in for arguments that were not given. -/
def fromEnvironment (scope : Scope) (env : Environment) (s : Scan) :
    Except Fault (List (Arg × String)) := do
  let found := scope.args.filterMap fun arg => do
    let text ← env.get? (← arg.form.env)
    if s.has (.named arg) then none else some (arg, text)
  match found.find? fun (arg, text) =>
      arg = .nonInteractive && text ≠ "true" && text ≠ "false" with
  | some (arg, text) => .error (.badValue scope (.named arg) text)
  | none => .ok found

/-- What was given, once all arguments of the scope have been read. -/
def ofScan (scope : Scope) (env : Environment) (s : Scan) : Except Fault Given := do
  let s ← s.settle scope
  return ⟨s.given, ← fromEnvironment scope env s⟩

def isEmpty (g : Given) : Bool := g.values.isEmpty && g.env.isEmpty

def value? (g : Given) (slot : Slot) : Option String :=
  (g.values.find? fun v => v.1 = slot).map (·.2)

def has (g : Given) (arg : Arg) : Bool := (g.value? (.named arg)).isSome

def count (g : Given) (arg : Arg) : Nat := (g.values.filter fun v => v.1 = .named arg).length

def env? (g : Given) (arg : Arg) : Option String := (g.env.find? fun v => v.1 = arg).map (·.2)

/-- What must not be given together, and what must be given. -/
def validate (sub : Subcommand) (g : Given) : Except Fault Unit :=
  if g.has .resyncTimeout && g.has .noResyncLimit then .error (.conflicting (.sub sub))
  else if sub.operand? = some .firmware && (g.value? .operand).isNone then
    .error (.missingOperand (.sub sub))
  else .ok ()

end Given

/-- The most that the verbosity counts to. -/
def maxVerbosity : Nat := 255

/-- Options given after the subcommand come before those in front of it, and
those before the environment. -/
def optionsOf (outer own : Given) : Options :=
  let value? (arg : Arg) : Option String :=
    own.value? (.named arg) <|> outer.value? (.named arg) <|> own.env? arg
  let has (arg : Arg) : Bool := own.has arg || outer.has arg
  let count (arg : Arg) : Nat := if own.has arg then own.count arg else outer.count arg
  { port := value? .port
    address := value? .address
    verbose := min maxVerbosity (count .verbose)
    quiet := has .quiet
    nonInteractive := has .nonInteractive || own.env? .nonInteractive = some "true"
    confirmPort := has .confirmPort
    listAllPorts := has .listAllPorts
    config := value? .config }

def taskOf (sub : Subcommand) (g : Given) : Task :=
  let firmware := (g.value? .operand).getD ""
  match sub with
  | .update =>
    .update firmware ((g.value? (.named .resyncTimeout)).bind seconds?) (g.has .noResyncLimit)
  | .info => .info firmware (g.has .json)
  | .listPorts => .listPorts (g.has .json)
  | .completions => .completions ((g.value? .operand).bind Shell.ofWord?) (g.has .install)

/-- Reads a command line, without the program's own name. -/
def parse (args : List String) (env : Environment) : Except Fault Invocation := do
  let (s, found) ← Scan.upToSubcommand args {}
  match found with
  | none =>
    let outer ← Given.ofScan .program env s
    throw (if outer.isEmpty then .nothingGiven else .missingSubcommand)
  | some (sub, rest) =>
    let own ← Given.ofScan (.sub sub) env (← Scan.all (.sub sub) rest {})
    own.validate sub
    let outer ← Given.ofScan .program env s
    return ⟨optionsOf outer own, taskOf sub own⟩

end SspUpdate.CommandLine
