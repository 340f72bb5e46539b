import SspUpdate.Config.Store
import SspUpdate.Detect
import SspUpdate.Failure
import SspUpdate.Serial.Driver
import SspUpdate.Terminal
import SspUpdate.Text.Styled

/-!
# The station

Where the program is run: its environment, its files, the serial ports, and
perhaps a terminal. A command is an action on the station that succeeds or
fails. What it writes is kept in one list, log lines and questions included,
so that their order is known.
-/

namespace SspUpdate

inductive Output where
  | out (text : String)
  | err (text : String)
  | log (line : LogLine)
  /-- Shown on the terminal only. -/
  | shown (text : String)
  /-- A question found no key. -/
  | awaited
  deriving DecidableEq, Repr

namespace Output

def outText : Output → String
  | out text => text
  | _ => ""

/-- A message on the error output; log lines go there as far as a filter
shows them. -/
def errText (showLog : LogLine → Option String) : Output → String
  | err text => text
  | log line => (showLog line).getD ""
  | _ => ""

/-- What a terminal shows besides the results. -/
def terminalText : Output → String
  | err text | shown text => text
  | _ => ""

end Output

structure Station (δ : Type) where
  env : Environment
  files : Files
  serial : Serial.Attached δ
  /-- What an enumeration of the serial ports finds. -/
  ports : Except String (List DetectedPort)
  /-- The terminal, if input and messages are on one. -/
  terminal : Option Terminal
  colors : Bool
  patience : Nat
  /-- What has been written, newest first. -/
  output : List Output

abbrev StationM (δ : Type) := EStateM Failure (Station δ)

namespace Station

variable {δ : Type}

def raise {α : Type} (f : Failure) : StationM δ α := throw f

/-- Puts a context around the failures of an action. -/
def within {α : Type} (context : String) (act : StationM δ α) : StationM δ α := fun s =>
  match act s with
  | .ok a s => .ok a s
  | .error f s => .error (f.within context) s

/-- A value, or the failure it stands for. -/
def ofExcept {ε α : Type} (failure : ε → Failure) : Except ε α → StationM δ α
  | .ok a => pure a
  | .error e => raise (failure e)

def emit (o : Output) : StationM δ Unit := modify fun s => { s with output := o :: s.output }

/-- Writes a line of results. -/
def print (line : String) : StationM δ Unit := emit (.out (line ++ "\n"))

/-- Writes a line of messages. -/
def say (line : String) : StationM δ Unit := emit (.err (line ++ "\n"))

def log (level : Level) (target text : String) : StationM δ Unit :=
  emit (.log ⟨level, target, text⟩)

def logAll (lines : List LogLine) : StationM δ Unit :=
  modify fun s => { s with output := (lines.map Output.log).reverse ++ s.output }

/-- A text in a style, as this station shows it. -/
def paint (style : Text.Style) (text : String) : StationM δ String := do
  return style.paint (← get).colors text

def wasInterrupted : StationM δ Bool := do return (← get).serial.stop

def ensureNotInterrupted : StationM δ Unit := do
  if ← wasInterrupted then raise (.cancelled "interrupted")

/-- The serial ports that an enumeration finds; if it fails there are none. -/
def detect : StationM δ (List DetectedPort) := do
  match (← get).ports with
  | .error e => log .debug Target.device ("Failed to enumerate serial ports: " ++ e)
  | .ok ports => logAll (ports.filterMap fun p => p.trace?.map (⟨.trace, Target.device, ·⟩))
  return DetectedPort.ofEnumeration (← get).ports

/-- All that a run has written to the output. -/
def outText (s : Station δ) : String := String.join (s.output.reverse.map Output.outText)

def errText (showLog : LogLine → Option String) (s : Station δ) : String :=
  String.join (s.output.reverse.map (Output.errText showLog))

def terminalText (s : Station δ) : String :=
  String.join (s.output.reverse.map Output.terminalText)

/-- A question that got no answer because the terminal failed. -/
def promptFailure (e : IoError) : Failure :=
  match e.kind with
  | .interrupted => .cancelled "port selection cancelled"
  | _ => .usage ("prompt failed: " ++ e.text)

/-- The terminal, without which nothing can be asked. -/
def requireTerminal : StationM δ Terminal := do
  match (← get).terminal with
  | some t => return t
  | none => raise (.usage "port selection needs an interactive terminal; pass --port")

def hasTerminal : StationM δ Bool := do return (← get).terminal.isSome

def keepKeys (keys : List Key) : StationM δ Unit :=
  modify fun s => { s with terminal := s.terminal.map fun t => { t with keys } }

/-- The program is asked to stop. -/
def interrupt : StationM δ Unit := modify fun s => { s with serial := { s.serial with stop := true } }

/-- An answer, or none if the user gave up. -/
def settle {α : Type} : Reply α → StationM δ (Option α)
  | .given a => return some a
  | .cancelled => return none
  | .interrupted => do
    interrupt
    raise (promptFailure ⟨.interrupted, "read interrupted"⟩)
  | .waiting => do
    emit .awaited
    raise (promptFailure ⟨.unexpectedEof, "no input"⟩)

/-- Lets the user choose an item of a menu; the first one is marked at first. -/
def choose (title : String) (items : List String) : StationM δ (Option Nat) := do
  let terminal ← requireTerminal
  let menu := Menu.on terminal title items
  let (reply, keys, marks) := menu.ask 0 terminal.keys
  (0 :: marks).forM fun mark => emit (.shown (menu.render mark))
  keepKeys keys
  let answer ← settle reply
  if let some index := answer then emit (.shown (menu.renderAnswer index))
  return answer

/-- Asks a question; giving up counts as no. -/
def confirm (question : String) (default : Bool) : StationM δ Bool := do
  let terminal ← requireTerminal
  let (reply, keys) := Confirm.ask default terminal.keys
  emit (.shown (Confirm.render question default))
  keepKeys keys
  let answer ← settle reply
  if let some b := answer then emit (.shown (Confirm.renderAnswer question b))
  return answer.getD false

/-- Loads the configuration, of one file if it is named. -/
def loadConfig (path : Option String) : StationM δ Config := do
  let s ← get
  let (config, lines) := match path with
    | some path => Config.loadFrom s.files path
    | none => Config.load s.files s.env
  logAll lines
  return config

/-- Remembers a device; gives the configuration as it is then, and whether it
could be saved. -/
def remember (config : Config) (device : UsbDevice) :
    StationM δ (Except FileFault Unit × Config) := do
  let s ← get
  let r := config.remember s.files s.env device
  set { s with files := r.files }
  logAll r.log
  return (r.result, r.config)

end Station

end SspUpdate
