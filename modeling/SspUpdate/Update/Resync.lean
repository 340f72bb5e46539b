import SspUpdate.Update.Run
import SspUpdate.Update.Timing

/-!
# Resynchronisation

After the main stage the device restarts, and its port may vanish and come
back. The port is closed, and then opened and synchronised over and over until
the device answers, somebody asks to stop, or the time limit has passed. A
failure of the port itself drops the port, so the next round opens it anew.
-/

namespace SspUpdate.Resync

variable {σ κ : Type} [SerialHost σ] [CommandChannel σ κ]

/-- Opens the port if it is closed; a failure is only noted. -/
def ensureOpen : RunM σ κ Unit := do
  if (← get).session.isOpen then pure ()
  else
    match ← attempt (Run.onSession (Session.reopen commandBaud 0)) with
    | .ok () => pure ()
    | .error e => Run.note (.resyncFailed e)

/-- One synchronisation over the open port; tells whether the device accepted. -/
def trySync (number : Nat) : RunM σ κ Bool := do
  match ← attempt (Run.onLink CommandChannel.sync) with
  | .ok status =>
    if status.isOk then do
      Run.note (.resynced number)
      pure true
    else do
      Run.note (.resyncAnswered status)
      pure false
  | .error e => do
    Run.note (.resyncFailed e)
    if e.outcome = .portError then Run.onSession Session.close
    pure false

/-- One round: open if needed, and synchronise if open. -/
def round (number : Nat) : RunM σ κ Bool := do
  ensureOpen
  if (← get).session.isOpen then trySync number else pure false

/-- Ends the wait when somebody asks to stop or the limit has passed. -/
def checkLimits (timing : Timing) (start : Nat) : RunM σ κ Unit := do
  if ← Run.onLine Line.stopRequested then fail .resyncInterrupted
  else
    match timing.resyncLimit with
    | none => pure ()
    | some limit =>
      let elapsed := (← Run.onLine Line.clock) - start
      if limit ≤ elapsed then fail (.noResync (limit / 1000)) else pure ()

/-- The number of the round after so many; they are counted in a 32-bit word. -/
def nextNumber (rounds : Nat) : Option Nat :=
  if rounds + 1 < UInt32.size then some (rounds + 1) else none

/-- Rounds until one succeeds. -/
def loop (timing : Timing) (start : Nat) : (patience rounds : Nat) → RunM σ κ Unit
  | 0, _ => throw (.unfinished .patience)
  | patience + 1, rounds => do
    let number ← checked (nextNumber rounds)
    if ← round number then pure ()
    else do
      checkLimits timing start
      Run.onLine (Line.sleep timing.resyncInterval)
      loop timing start patience number

def run (timing : Timing) : RunM σ κ Unit := do
  Run.onSession Session.close
  let start ← Run.onLine Line.clock
  loop timing start (← get).session.line.patience 0

end SspUpdate.Resync
