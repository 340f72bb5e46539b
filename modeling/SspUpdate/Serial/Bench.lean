import SspUpdate.Serial.Driver

/-!
# The bench

A driver with scripted devices on named ports. A device keeps its state while
ports are opened and closed. It answers by the number of bytes it was sent:
each entry of its script is a number and the bytes it replies once that many
have arrived. A silent device costs no time.
-/

namespace SspUpdate.Serial

structure Device where
  name : String
  /-- Replies still to come, each with the byte count that releases it. -/
  script : List (Nat × Bytes)
  /-- Which openings fail, and with what text. -/
  openErrors : List (Nat × String)
  opens : Nat := 0
  received : Nat := 0
  queue : Bytes := []
  deriving DecidableEq, Repr

inductive Bench.Event where
  | opened (settings : Settings)
  | openFailed (port : String) (baud : UInt32)
  | closed
  | switched (baud : UInt32)
  | cleared
  | wrote (data : Bytes)
  deriving DecidableEq, Repr

structure Bench where
  devices : List Device
  /-- Name of the open device. -/
  current : Option String := none
  /-- What was done, newest first. -/
  events : List Bench.Event := []
  clock : Nat := 0
  deriving DecidableEq, Repr

/-- Releases the replies whose count has been reached. -/
def Device.release (d : Device) : List (Nat × Bytes) → Device
  | [] => { d with script := [] }
  | (n, reply) :: rest =>
    if n ≤ d.received then Device.release { d with queue := d.queue ++ reply } rest
    else { d with script := (n, reply) :: rest }

def Device.take (d : Device) (data : Bytes) : Device :=
  let d := { d with received := d.received + data.length }
  d.release d.script

namespace Bench

def find? (b : Bench) (name : String) : Option Device := b.devices.find? fun d => d.name = name

/-- Replaces the first device of the name. -/
def put (d : Device) : List Device → List Device
  | [] => []
  | e :: rest => if e.name = d.name then d :: rest else e :: put d rest

def log (b : Bench) (e : Event) : Bench := { b with events := e :: b.events }

def openDevice (settings : Settings) (b : Bench) : Except String Unit × Bench :=
  match b.find? settings.port with
  | none => (.error "No such file or directory", b)
  | some d =>
    let b := { b with devices := put { d with opens := d.opens + 1 } b.devices }
    match d.openErrors.find? fun e => e.1 = d.opens with
    | some (_, text) => (.error text, b.log (.openFailed settings.port settings.baud))
    | none => (.ok (), { b with current := some settings.port }.log (.opened settings))

/-- The open device. -/
def device? (b : Bench) : Option Device := b.current.bind b.find?

def read (count : Nat) (b : Bench) : Except IoError Bytes × Bench :=
  match b.device? with
  | none => (.error ⟨.notConnected, "port closed"⟩, b)
  | some d =>
    if d.queue.isEmpty then (.error ⟨.timedOut, "Operation timed out"⟩, b)
    else
      (.ok (d.queue.take count),
        { b with devices := put { d with queue := d.queue.drop count } b.devices })

def write (data : Bytes) (b : Bench) : Except IoError Nat × Bench :=
  match b.device? with
  | none => (.error ⟨.notConnected, "port closed"⟩, b)
  | some d =>
    (.ok data.length, { b with devices := put (d.take data) b.devices }.log (.wrote data))

def clear (b : Bench) : Except String Unit × Bench :=
  match b.device? with
  | none => (.ok (), b)
  | some d => (.ok (), { b with devices := put { d with queue := [] } b.devices }.log .cleared)

instance : Driver Bench where
  openDevice := openDevice
  release b := { b with current := none }.log .closed
  setTimeout _ b := (.ok (), b)
  setBaud baud b := (.ok (), b.log (.switched baud))
  bytesToRead b := (.ok ((b.device?.map fun d => d.queue.length).getD 0), b)
  clear := clear
  read := read
  write := write
  flush b := (.ok (), b)
  clock b := b.clock
  lastInstant _ := none
  sleep ms b := { b with clock := b.clock + ms }

end Bench

end SspUpdate.Serial
