import SspUpdate.Line
import SspUpdate.Line.Polling
import SspUpdate.Serial.Settings

/-!
# Ports of a serial driver

A serial driver holds at most one open device at a time here, and reads with a
timeout that is a setting of the device. `Port` is what is known of the device
apart from the driver: its name, the configured timeout and rate, and whether
it is open. A port with its driver is a host for updates.

Reading one byte within a limit sets the device's timeout to what is left of
the limit before each read, and puts the configured one back when it gives a
byte or gives up.
-/

namespace SspUpdate.Serial

/-- The answers of a serial driver. Settings and queue questions fail with a
text, reads and writes as streams do. -/
class Driver (δ : Type) where
  openDevice : Settings → δ → Except String Unit × δ
  release : δ → δ
  setTimeout : Nat → δ → Except String Unit × δ
  setBaud : UInt32 → δ → Except String Unit × δ
  bytesToRead : δ → Except String Nat × δ
  clear : δ → Except String Unit × δ
  read : Nat → δ → Except IoError Bytes × δ
  write : Bytes → δ → Except IoError Nat × δ
  flush : δ → Except IoError Unit × δ
  clock : δ → Nat
  /-- The last instant of the clock, if it has one. -/
  lastInstant : δ → Option Nat
  sleep : Nat → δ → δ

structure Port where
  name : String
  timeout : Nat
  baud : UInt32
  isOpen : Bool
  deriving DecidableEq, Repr

/-- A driver with the port that was opened on it, and whether somebody asked
to stop. -/
structure Attached (δ : Type) where
  driver : δ
  port : Port
  stop : Bool := false

namespace Attached

variable {δ : Type}

/-- No port has been opened yet. -/
def idle (driver : δ) (stop : Bool) : Attached δ := ⟨driver, ⟨"", 0, commandBaud, false⟩, stop⟩

variable [Driver δ]

/-- Carries an answer of the driver over to the port. -/
def onDriver {ε ε' α : Type} (wrap : ε → ε') (act : δ → Except ε α × δ) (s : Attached δ) :
    Except ε' α × Attached δ :=
  match act s.driver with
  | (.ok a, driver) => (.ok a, { s with driver })
  | (.error e, driver) => (.error (wrap e), { s with driver })

def openWith (settings : Settings) (s : Attached δ) : Except Error Unit × Attached δ :=
  match onDriver Error.serial (Driver.openDevice settings) s with
  | (.ok (), s) =>
    (.ok (), { s with port := ⟨settings.port, settings.timeout, settings.baud, true⟩ })
  | (.error e, s) => (.error e, s)

def setTimeout (ms : Nat) (s : Attached δ) : Except Error Unit × Attached δ :=
  if s.port.isOpen then
    match onDriver Error.serial (Driver.setTimeout ms) s with
    | (.ok (), s) => (.ok (), { s with port := { s.port with timeout := ms } })
    | (.error e, s) => (.error e, s)
  else (.ok (), { s with port := { s.port with timeout := ms } })

def setBaud (baud : UInt32) (s : Attached δ) : Except Error Unit × Attached δ :=
  if s.port.isOpen then
    match onDriver Error.serial (Driver.setBaud baud) s with
    | (.ok (), s) => (.ok (), { s with port := { s.port with baud } })
    | (.error e, s) => (.error e, s)
  else (.ok (), { s with port := { s.port with baud } })

def available (s : Attached δ) : Except Error Bool × Attached δ :=
  if s.port.isOpen then
    match onDriver Error.serial Driver.bytesToRead s with
    | (.ok n, s) => (.ok (0 < n), s)
    | (.error e, s) => (.error e, s)
  else (.error (.portClosed s.port.name), s)

def clear (s : Attached δ) : Except Error Unit × Attached δ :=
  if s.port.isOpen then onDriver Error.serial Driver.clear s else (.ok (), s)

def close (s : Attached δ) : Except Error Unit × Attached δ :=
  if s.port.isOpen then
    (.ok (), { s with driver := Driver.release s.driver, port := { s.port with isOpen := false } })
  else (.ok (), s)

/-- Streams answer this when the port is closed. -/
def notConnected : IoError := ⟨.notConnected, "port closed"⟩

def read (count : Nat) (s : Attached δ) : Except IoError Bytes × Attached δ :=
  if s.port.isOpen then onDriver id (Driver.read count) s else (.error notConnected, s)

def write (data : Bytes) (s : Attached δ) : Except IoError Nat × Attached δ :=
  if s.port.isOpen then onDriver id (Driver.write data) s else (.error notConnected, s)

def flush (s : Attached δ) : Except IoError Unit × Attached δ :=
  if s.port.isOpen then onDriver id Driver.flush s else (.error notConnected, s)

/-- The device's timeout for taking a byte that has already arrived. -/
def minReadTimeout : Nat := 1

/-- Readies the device for one read before the deadline; `false` when the
deadline has passed and nothing waits. -/
def prepareRead (deadline : Nat) (s : Attached δ) : Except Error Bool × Attached δ :=
  let remaining := deadline - Driver.clock s.driver
  let ready (ms : Nat) (s : Attached δ) : Except Error Bool × Attached δ :=
    match onDriver Error.serial (Driver.setTimeout ms) s with
    | (.ok (), s) => (.ok true, s)
    | (.error e, s) => (.error e, s)
  if remaining = 0 then
    match onDriver Error.serial Driver.bytesToRead s with
    | (.error e, s) => (.error e, s)
    | (.ok 0, s) => (.ok false, s)
    | (.ok (_ + 1), s) => ready minReadTimeout s
  else ready remaining s

/-- Reads until there is a byte, a read times out, or the deadline passes. A
read may come back early with nothing, so it is repeated. -/
def readUntil (deadline : Nat) : Nat → Attached δ → Except Halt (Option UInt8) × Attached δ
  | 0, s => (.error (.unfinished .patience), s)
  | patience + 1, s =>
    match prepareRead deadline s with
    | (.error e, s) => (.error (.failed e), s)
    | (.ok false, s) => (.ok none, s)
    | (.ok true, s) =>
      match onDriver id (Driver.read 1) s with
      | (.ok [b], s) => (.ok (some b), s)
      | (.ok _, s) => readUntil deadline patience s
      | (.error e, s) =>
        match e.kind with
        | .timedOut => (.ok none, s)
        | .interrupted => readUntil deadline patience s
        | _ => (.error (.failed (.io e)), s)

/-- The next byte, if one comes within `ms` milliseconds. The deadline is an instant of the clock,
which has to go so far. -/
def readWithin (patience ms : Nat) (s : Attached δ) :
    Except Halt (Option UInt8) × Attached δ :=
  match timeAfter (Driver.lastInstant s.driver) (Driver.clock s.driver) ms with
  | none => (.error (.unfinished .overflow), s)
  | some deadline =>
    if s.port.isOpen then
      match readUntil deadline patience s with
      | (.error h, s) => (.error h, s)
      | (.ok b, s) =>
        match onDriver Error.serial (Driver.setTimeout s.port.timeout) s with
        | (.ok (), s) => (.ok b, s)
        | (.error e, s) => (.error (.failed e), s)
    else (.error (.failed (.portClosed s.port.name)), s)

/-- Opens a port with the line settings of SSP devices. -/
def openPort (port : String) (baud : UInt32) (s : Attached δ) : Except Error Unit × Attached δ :=
  match openWith { port, baud } s with
  | (.ok (), s) => (.ok (), s)
  | (.error e, s) => (.error (.cannotOpenPort port e), s)

/-- The polled reading of a port, beside its own. -/
instance : ByteSource (Attached δ) where
  available := available
  read := read
  clock s := Driver.clock s.driver
  sleep ms s := { s with driver := Driver.sleep ms s.driver }

instance : SerialHost (Attached δ) where
  openPort := openPort
  closePort := close
  setBaud := setBaud
  write := write
  flush := flush
  readWithin := readWithin
  clock s := Driver.clock s.driver
  lastInstant s := Driver.lastInstant s.driver
  sleep ms s := { s with driver := Driver.sleep ms s.driver }
  stopRequested s := (s.stop, s)
  report _ s := s

end Attached

end SspUpdate.Serial
