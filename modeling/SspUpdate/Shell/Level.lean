import SspUpdate.CommandLine.Help

/-!
# Levels of the command line

The words before the cursor lead to a level, which has arguments of its own and
words that lead further. `help` has a level below it for each subcommand.
-/

namespace SspUpdate.Shell

open CommandLine

inductive Level where
  | scope (l : Scope)
  | help
  /-- Help on a subcommand, or on `help` itself. -/
  | helpOn (s : Option Subcommand)
  deriving DecidableEq, Repr

namespace Level

def program : Level := scope .program

def subWord (s : Option Subcommand) : String := (s.map Subcommand.word).getD "help"

/-- The words that lead to the level. -/
def words : Level → List String
  | scope l => l.words
  | help => [Shell.program, "help"]
  | helpOn s => [Shell.program, "help", subWord s]

/-- The word that leads here from the level above. -/
def word (v : Level) : String := (v.words.getLast?).getD ""

def about : Level → String
  | scope .program => programAbout
  | scope (.sub s) | helpOn (some s) => s.about
  | help | helpOn none => helpAbout

def args : Level → List Arg
  | scope l => l.args
  | help | helpOn _ => []

/-- The arguments that take a value. -/
def options (v : Level) : List Arg := v.args.filter fun a => a.form.value.isSome

def flags (v : Level) : List Arg := v.args.filter fun a => a.form.value.isNone

def aboutArg (v : Level) (a : Arg) : String :=
  match v with
  | scope l => l.aboutArg a
  | help | helpOn _ => a.form.about

def operand? : Level → Option Operand
  | scope l => l.operand?
  | help | helpOn _ => none

/-- The levels that one word leads to. -/
def below : Level → List Level
  | scope .program => Subcommand.all.map (scope ∘ .sub) ++ [help]
  | help => (Subcommand.all.map some ++ [none]).map helpOn
  | scope (.sub _) | helpOn _ => []

/-- A level and all below it. -/
def withBelow (v : Level) : List Level := v :: v.below.flatMap fun w => w :: w.below

/-- The words of a level, put together. -/
def path (separator : String) (v : Level) : String := separator.intercalate v.words

/-- All levels below the program, by their words. -/
def sorted : List Level :=
  (program.withBelow.drop 1).mergeSort fun v w => !(w.path " " < v.path " ")

end Level

/-- The letter of an argument after a dash, if it has one. -/
def shortWord? (a : Arg) : Option String := a.form.short.map fun c => "-" ++ c.toString

def longWord (a : Arg) : String := "--" ++ a.form.long

/-- The ways to type an argument. -/
def argWords (a : Arg) : List String := (shortWord? a).toList ++ [longWord a]

def lines (ls : List String) : String := String.join (ls.map (· ++ "\n"))

/-- A text between single quotes, where some characters are written differently. -/
def quoted (escape : Char → String) (text : String) : String :=
  "'" ++ String.join (text.toList.map escape) ++ "'"

/-- Quotes inside are doubled. -/
def doubled (text : String) : String :=
  quoted (fun c => if c = '\'' then "''" else c.toString) text

end SspUpdate.Shell
