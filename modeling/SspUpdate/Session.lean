import SspUpdate.Line

/-!
# Sessions

The device expects the line to be torn down and brought up again around every
change of its baud rate, so an update owns a session: a port name, whether the
port is open now, and the rate it was last opened at or switched to. The port
is never opened while it is open, and closing it twice closes it once.
-/

namespace SspUpdate

structure Session (σ : Type) where
  line : Line σ
  port : String
  isOpen : Bool
  baud : UInt32

abbrev SessionM (σ : Type) := EStateM Halt (Session σ)

/-- What a failure to open a port is reported as. -/
def Error.asPortError (port : String) (e : Error) : Error :=
  if e.kind = .port then e else .portFailed port e

namespace Session

variable {σ : Type} [SerialHost σ]

/-- A session whose port has not been opened yet. -/
def closed (line : Line σ) (port : String) : Session σ := ⟨line, port, false, 0⟩

def onLine {α : Type} (act : LineM σ α) : SessionM σ α :=
  zoom Session.line (fun line s => { s with line }) act

def note (n : Note) : SessionM σ Unit := onLine (Line.note n)

/-- Opens the port, which must be closed. -/
def openAt (baud : UInt32) : SessionM σ Unit := do
  let port := (← get).port
  match ← attempt (onLine (Line.openPort port baud)) with
  | .ok () => modify fun s => { s with isOpen := true, baud }
  | .error e => fail (e.asPortError port)

/-- Ends with an error unless the port is open. -/
def requireOpen : SessionM σ Unit := do
  let s ← get
  if s.isOpen then pure () else fail (.portNotOpen s.port)

/-- Uses the open port. -/
def withPort {α : Type} (act : LineM σ α) : SessionM σ α := do
  requireOpen
  onLine act

def setBaud (baud : UInt32) : SessionM σ Unit := do
  withPort (Line.setBaud baud)
  modify fun s => { s with baud }

/-- Closes the port if it is open; even a failing close gives it up. -/
def close : SessionM σ Unit := do
  let s ← get
  if s.isOpen then do
    set { s with isOpen := false }
    onLine (Line.closePort s.port)
  else pure ()

/-- Closes the port, lets it settle for `ms` milliseconds and opens it again. -/
def reopen (baud : UInt32) (ms : Nat) : SessionM σ Unit := do
  close
  let port := (← get).port
  if 0 < ms then do
    note (.settling ms port)
    onLine (Line.sleep ms)
  openAt baud
  note (.reopened port baud)

/-- The session at its end: the port is closed, whatever the answer. -/
def finish (s : Session σ) : Session σ :=
  match close s with
  | .ok () s => s
  | .error _ s => s

end Session

end SspUpdate
