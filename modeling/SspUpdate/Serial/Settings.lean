import SspUpdate.Update.Timing

/-!
# Line settings

How a serial port is opened. SSP devices use eight data bits, no parity and
two stop bits.
-/

namespace SspUpdate.Serial

inductive DataBits where
  | seven
  | eight
  deriving DecidableEq, Repr

inductive Parity where
  | none
  | odd
  | even
  deriving DecidableEq, Repr

inductive StopBits where
  | one
  | two
  deriving DecidableEq, Repr

inductive FlowControl where
  | none
  | hardware
  deriving DecidableEq, Repr

structure Settings where
  port : String := ""
  baud : UInt32 := commandBaud
  /-- Limit for plain reads and writes, in milliseconds. -/
  timeout : Nat := 1000
  dataBits : DataBits := .eight
  parity : Parity := .none
  stopBits : StopBits := .two
  flowControl : FlowControl := .none
  deriving DecidableEq, Repr

def DataBits.name : DataBits → String
  | seven => "Seven"
  | eight => "Eight"

def Parity.name : Parity → String
  | none => "None"
  | odd => "Odd"
  | even => "Even"

def StopBits.name : StopBits → String
  | one => "One"
  | two => "Two"

def FlowControl.name : FlowControl → String
  | none => "None"
  | hardware => "Hardware"

end SspUpdate.Serial
