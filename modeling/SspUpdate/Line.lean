import SspUpdate.Journal

/-!
# The line

An update runs against a host with one serial port that it can open, close,
switch, write to and read from, with a clock, and with somebody who may ask it
to stop. `SerialHost` lists what such a host answers, as functions on its
state, so that a statement about all hosts is a statement about all instances.

A `Line` is a host with the journal of what was asked of it. Actions on a line
are state transformers that keep the state when they fail. A host may make an
action wait for ever; waiting loops therefore take at most `patience` rounds
and end as unfinished after that. A clock may have a last instant; who needs a
later one breaks down.
-/

namespace SspUpdate

/-- The answers of a host with a serial port; `readWithin` may use up to
`patience` rounds to get a byte within `ms` milliseconds. -/
class SerialHost (σ : Type) where
  openPort : String → UInt32 → σ → Except Error Unit × σ
  closePort : σ → Except Error Unit × σ
  setBaud : UInt32 → σ → Except Error Unit × σ
  write : Bytes → σ → Except IoError Nat × σ
  flush : σ → Except IoError Unit × σ
  readWithin : (patience ms : Nat) → σ → Except Halt (Option UInt8) × σ
  clock : σ → Nat
  /-- The last instant of the clock, if it has one. -/
  lastInstant : σ → Option Nat
  sleep : Nat → σ → σ
  stopRequested : σ → Bool × σ
  report : Progress → σ → σ

/-- The time `ms` milliseconds after `now`, on a clock with this last instant. -/
def timeAfter (lastInstant : Option Nat) (now ms : Nat) : Option Nat :=
  if lastInstant.any (· < now + ms) then none else some (now + ms)

theorem timeAfter_cases (lastInstant : Option Nat) (now ms : Nat) :
    timeAfter lastInstant now ms = none ∨ timeAfter lastInstant now ms = some (now + ms) := by
  unfold timeAfter
  split <;> simp

structure Line (σ : Type) where
  host : σ
  /-- What happened, newest first. -/
  journal : List Entry
  patience : Nat

/-- What happened on a line, oldest first. -/
def Line.history {σ : Type} (l : Line σ) : List Entry := l.journal.reverse

abbrev LineM (σ : Type) := EStateM Halt (Line σ)

/-- Ends an action with an error. -/
def fail {s α : Type} (e : Error) : EStateM Halt s α := throw (.failed e)

/-- The value of a result, or its error as the end of the action. -/
def ofExcept {s α : Type} : Except Error α → EStateM Halt s α
  | .ok a => pure a
  | .error e => fail e

/-- The value of a result, or the end of the action. -/
def ofResult {s α : Type} : Except Halt α → EStateM Halt s α
  | .ok a => pure a
  | .error h => throw h

/-- A number that has to fit its word; the program breaks down if it does not. -/
def checked {s α : Type} : Option α → EStateM Halt s α
  | some a => pure a
  | none => throw (.unfinished .overflow)

/-- Runs an action and turns its failure into a value; the state stays as the
action left it. An unfinished action stays unfinished. -/
def attempt {s α : Type} (act : EStateM Halt s α) : EStateM Halt s (Except Error α) := fun st =>
  match act st with
  | .ok a st => .ok (.ok a) st
  | .error (.failed e) st => .ok (.error e) st
  | .error (.unfinished cut) st => .error (.unfinished cut) st

/-- Runs an action on a part of a larger state. -/
def zoom {s t α : Type} (part : t → s) (put : s → t → t) (act : EStateM Halt s α) :
    EStateM Halt t α := fun whole =>
  match act (part whole) with
  | .ok a st => .ok a (put st whole)
  | .error e st => .error e (put st whole)

namespace Line

variable {σ : Type} [SerialHost σ]

/-- Asks the host one question and records it with its answer. -/
def ask {α : Type} (question : σ → α × σ) (entry : α → Entry) : LineM σ α := fun l =>
  let (answer, host) := question l.host
  .ok answer { l with host, journal := entry answer :: l.journal }

def note (n : Note) : LineM σ Unit := fun l =>
  .ok () { l with journal := .noted n :: l.journal }

def openPort (port : String) (baud : UInt32) : LineM σ Unit := do
  ofExcept (← ask (SerialHost.openPort port baud) (.opened port baud))

def closePort (port : String) : LineM σ Unit := do
  ofExcept (← ask SerialHost.closePort (.closed port))

def setBaud (baud : UInt32) : LineM σ Unit := do
  ofExcept (← ask (SerialHost.setBaud baud) (.switched baud))

def writeSome (data : Bytes) : LineM σ (Except IoError Nat) :=
  ask (SerialHost.write data) (.wrote data)

/-- Writes until the host has taken every byte. An interrupted call is made
again; a call that takes nothing is a failure. -/
def writeAll (patience : Nat) (data : Bytes) : LineM σ Unit :=
  if _h : data ≠ [] then do
    match ← writeSome data with
    | .ok 0 => fail (.io ⟨.writeZero, "failed to write whole buffer"⟩)
    | .ok (n + 1) => writeAll patience (data.drop (n + 1))
    | .error e =>
      if e.kind = .interrupted then
        match patience with
        | 0 => throw (.unfinished .patience)
        | patience + 1 => writeAll patience data
      else fail (.io e)
  else pure ()
termination_by patience + data.length
decreasing_by
  · have : 0 < data.length := List.length_pos_iff.2 _h
    simp only [List.length_drop]
    omega
  · omega

/-- Writes all of `data`, then flushes once. -/
def send (data : Bytes) : LineM σ Unit := do
  writeAll (← get).patience data
  match ← ask SerialHost.flush .flushed with
  | .ok () => pure ()
  | .error e => fail (.io e)

/-- The next byte, if one comes within `ms` milliseconds. -/
def receive (ms : Nat) : LineM σ (Option UInt8) := do
  let patience := (← get).patience
  ofResult (← ask (SerialHost.readWithin patience ms) (.received ms))

def clock : LineM σ Nat := return SerialHost.clock (← get).host

/-- The deadline of something that may take `ms` milliseconds from now. -/
def deadline (ms : Nat) : LineM σ Nat := do
  let host := (← get).host
  checked (timeAfter (SerialHost.lastInstant host) (SerialHost.clock host) ms)

def sleep (ms : Nat) : LineM σ Unit := do
  let _ ← ask (fun s => ((), SerialHost.sleep ms s)) fun _ => .slept ms

def stopRequested : LineM σ Bool := ask SerialHost.stopRequested .stopAsked

def report (p : Progress) : LineM σ Unit := do
  let _ ← ask (fun s => ((), SerialHost.report p s)) fun _ => .progressed p

end Line

end SspUpdate
