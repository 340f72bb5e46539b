import SspUpdate.Toml.Document
import SspUpdate.Update.Timing

/-!
# Configuration

What configuration files can set: the connection, the USB devices that were
remembered, and the timing of an update. A later file overrides what it sets
and adds its devices. Keys that are not known do not matter.
-/

namespace SspUpdate

structure UsbDevice where
  vid : UInt16
  pid : UInt16
  deriving DecidableEq, Repr

structure Connection where
  serial : Option String := none
  address : Option String := none
  deriving DecidableEq, Repr

structure PortConfig where
  connection : Connection := {}
  usbDevices : List UsbDevice := []
  deriving DecidableEq, Repr

structure UpdateSettings where
  /-- Seconds to wait for the device to come back; 0 for no limit. -/
  resyncTimeoutSecs : Option Nat := none
  reopenDelayMs : Option Nat := none
  ackTimeoutMs : Option Nat := none
  deriving DecidableEq, Repr

structure Config where
  port : PortConfig := {}
  update : UpdateSettings := {}
  deriving DecidableEq, Repr

namespace UpdateSettings

/-- A limit in seconds; 0 stands for none. -/
def resyncLimit (seconds : Nat) : Option Nat :=
  if 0 < seconds then some (1000 * seconds) else none

/-- The timing of an update with these settings. -/
def timing (s : UpdateSettings) : Timing :=
  let default : Timing := {}
  { default with
    resyncLimit := (s.resyncTimeoutSecs.map resyncLimit).getD default.resyncLimit
    reopenDelay := s.reopenDelayMs.getD default.reopenDelay
    ackTimeout := s.ackTimeoutMs.getD default.ackTimeout }

/-- Settings of `later` over those of `s`. -/
def merge (s later : UpdateSettings) : UpdateSettings where
  resyncTimeoutSecs := later.resyncTimeoutSecs <|> s.resyncTimeoutSecs
  reopenDelayMs := later.reopenDelayMs <|> s.reopenDelayMs
  ackTimeoutMs := later.ackTimeoutMs <|> s.ackTimeoutMs

end UpdateSettings

namespace PortConfig

/-- Adds a device unless it is there. -/
def addDevice (devices : List UsbDevice) (d : UsbDevice) : List UsbDevice :=
  if d ∈ devices then devices else devices ++ [d]

/-- The connection of `later` over that of `c`, and the devices of both. -/
def merge (c later : PortConfig) : PortConfig where
  connection :=
    { serial := later.connection.serial <|> c.connection.serial
      address := later.connection.address <|> c.connection.address }
  usbDevices := later.usbDevices.foldl addDevice c.usbDevices

end PortConfig

/-- Settings of `later` over those of `c`. -/
def Config.merge (c later : Config) : Config where
  port := c.port.merge later.port
  update := c.update.merge later.update

namespace Toml

/-- The value of a structure: a table by keys, or an array by position. -/
def structure? {α : Type} (ofEntries : Entries → Option α) (ofItems : List Value → Option α) :
    Value → Option α
  | .table _ entries => ofEntries entries
  | .datetime => ofEntries []
  | .array items => ofItems items
  | .tables items => ofItems items
  | _ => none

def string? : Value → Option String
  | .string text => some text
  | _ => none

/-- A number from 0 up to a limit. -/
def natural? (limit : Nat) : Value → Option Nat
  | .integer n => if 0 ≤ n ∧ n ≤ limit then some n.toNat else none
  | _ => none

def list? {α : Type} (item? : Value → Option α) : Value → Option (List α)
  | .array items => items.mapM item?
  | .tables items => items.mapM item?
  | _ => none

/-- A key that may be missing; if it is there its value has to fit. -/
def Entries.optional? {α : Type} (es : Entries) (key : String) (value? : Value → Option α) :
    Option (Option α) :=
  match es.get? key with
  | none => some none
  | some v => (value? v).map some

/-- A key with a default. -/
def Entries.withDefault? {α : Type} (es : Entries) (key : String) (default : α)
    (value? : Value → Option α) : Option α :=
  match es.get? key with
  | none => some default
  | some v => value? v

end Toml

open Toml in
def UsbDevice.ofValue? : Value → Option UsbDevice :=
  let number := natural? 0xFFFF
  structure?
    (fun es => do
      let vid ← number (← es.get? "vid")
      let pid ← number (← es.get? "pid")
      some ⟨vid.toUInt16, pid.toUInt16⟩)
    fun items => match items with
      | vid :: pid :: _ => do some ⟨(← number vid).toUInt16, (← number pid).toUInt16⟩
      | _ => none

open Toml in
def Connection.ofValue? : Value → Option Connection :=
  structure?
    (fun es => do
      some ⟨← es.optional? "serial" string?, ← es.optional? "address" string?⟩)
    fun items => match items with
      | serial :: address :: _ => do some ⟨some (← string? serial), some (← string? address)⟩
      | _ => none

open Toml in
def PortConfig.ofEntries? (es : Entries) : Option PortConfig := do
  let connection ← es.withDefault? "connection" {} Connection.ofValue?
  let devices ← es.withDefault? "usb_device" [] (list? UsbDevice.ofValue?)
  some ⟨connection, devices⟩

open Toml in
def PortConfig.ofValue? : Value → Option PortConfig :=
  structure? PortConfig.ofEntries? fun items => match items with
    | [] => some {}
    | [connection] => do some ⟨← Connection.ofValue? connection, []⟩
    | connection :: devices :: _ => do
      some ⟨← Connection.ofValue? connection, ← list? UsbDevice.ofValue? devices⟩

open Toml in
def UpdateSettings.ofValue? : Value → Option UpdateSettings :=
  let number := natural? (UInt64.size - 1)
  structure?
    (fun es => do
      some ⟨← es.optional? "resync_timeout_secs" number, ← es.optional? "reopen_delay_ms" number,
        ← es.optional? "ack_timeout_ms" number⟩)
    fun items => match items with
      | a :: b :: c :: _ => do some ⟨some (← number a), some (← number b), some (← number c)⟩
      | _ => none

open Toml in
def Config.ofEntries? (es : Entries) : Option Config := do
  let port ← es.withDefault? "port" {} PortConfig.ofValue?
  let update ← es.withDefault? "update" {} UpdateSettings.ofValue?
  some ⟨port, update⟩

/-- The configuration a text sets. -/
def Config.parse? (text : String) : Option Config := do Config.ofEntries? (← Toml.parse? text)

/-- The port configuration a text sets, in a file of its own. -/
def PortConfig.parse? (text : String) : Option PortConfig := do
  PortConfig.ofEntries? (← Toml.parse? text)

/-- A remembered device, one table of the list. -/
def UsbDevice.render (d : UsbDevice) : String :=
  s!"[[usb_device]]\nvid = {d.vid}\npid = {d.pid}\n"

/-- The file that remembers devices; its connection is empty. -/
def PortConfig.renderDevices (devices : List UsbDevice) : String :=
  if devices.isEmpty then "usb_device = []\n\n[connection]\n"
  else "[connection]\n" ++ String.join (devices.map fun d => "\n" ++ d.render)

end SspUpdate
