import SspUpdate.Command

/-!
# Timing of an update

All limits and pauses are in milliseconds.
-/

namespace SspUpdate

/-- The baud rate of command traffic. -/
def commandBaud : UInt32 := 9600

structure Timing where
  /-- Wait for each handshake acknowledgement. -/
  ackTimeout : Nat := 1000
  /-- Wait for each checksum the device sends back. -/
  checksumTimeout : Nat := 1000
  /-- Pause between closing and reopening the port before the main stage. -/
  reopenDelay : Nat := 3000
  /-- Limit of the final resynchronisation; without one it goes on until asked to stop. -/
  resyncLimit : Option Nat := some 120000
  /-- Pause between two attempts to resynchronise. -/
  resyncInterval : Nat := 200
  /-- Wait for the response to each attempt of a command. -/
  commandTimeout : Nat := Command.defaultTimeout
  /-- Attempts per command. -/
  commandRetries : UInt8 := Command.defaultRetries
  deriving DecidableEq, Repr

end SspUpdate
