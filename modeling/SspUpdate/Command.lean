import SspUpdate.Line

/-!
# Commands and command channels

A `Command` is what the host says to one device and what the device answered
last. A command channel exchanges commands over a line; `Link` is the state of
such an exchange. The update is written for any channel.
-/

namespace SspUpdate

structure Command where
  address : UInt8
  /-- How long to wait for a response to each attempt, in milliseconds. -/
  timeout : Nat
  /-- How many attempts to make; zero counts as one. -/
  retries : UInt8
  encrypted : Bool
  data : Bytes
  /-- The data of the last response; its first byte is the status. -/
  response : Bytes
  deriving DecidableEq, Repr

namespace Command

def defaultTimeout : Nat := 1000

def defaultRetries : UInt8 := 3

def new (address : UInt8) : Command :=
  ⟨address, defaultTimeout, defaultRetries, false, [], []⟩

/-- The status of the last response, if there was one. -/
def status? (c : Command) : Option Status := c.response.head?.map Status.ofByte

end Command

structure Link (σ κ : Type) where
  line : Line σ
  channel : κ
  command : Command

abbrev LinkM (σ κ : Type) := EStateM Halt (Link σ κ)

namespace Link

variable {σ κ : Type}

def onLine {α : Type} (act : LineM σ α) : LinkM σ κ α :=
  zoom Link.line (fun line l => { l with line }) act

def note [SerialHost σ] (n : Note) : LinkM σ κ Unit := onLine (Line.note n)

def setData (data : Bytes) : LinkM σ κ Unit :=
  modify fun l => { l with command := { l.command with data } }

end Link

/-- A way to exchange commands with a device: `sync` starts over, `send`
delivers the data of the command and stores the response. -/
class CommandChannel (σ κ : Type) where
  sync : LinkM σ κ Status
  send : LinkM σ κ Status

end SspUpdate
