import SspUpdate.Session
import SspUpdate.Command

/-!
# The state of a running update

A session on the port, the command channel, and the command under way. Actions
on the session and exchanges of commands are actions on this state.
-/

namespace SspUpdate

structure Run (σ κ : Type) where
  session : Session σ
  channel : κ
  command : Command

abbrev RunM (σ κ : Type) := EStateM Halt (Run σ κ)

namespace Run

variable {σ κ : Type} [SerialHost σ]

def onSession {α : Type} (act : SessionM σ α) : RunM σ κ α :=
  zoom Run.session (fun session r => { r with session }) act

def onLine {α : Type} (act : LineM σ α) : RunM σ κ α := onSession (Session.onLine act)

def note (n : Note) : RunM σ κ Unit := onLine (Line.note n)

/-- The exchange of commands on the line of the session. -/
def link (r : Run σ κ) : Link σ κ := ⟨r.session.line, r.channel, r.command⟩

def putLink (l : Link σ κ) (r : Run σ κ) : Run σ κ :=
  ⟨{ r.session with line := l.line }, l.channel, l.command⟩

/-- Exchanges commands over the open port. -/
def onLink {α : Type} (act : LinkM σ κ α) : RunM σ κ α := do
  onSession Session.requireOpen
  zoom link putLink act

end Run

end SspUpdate
