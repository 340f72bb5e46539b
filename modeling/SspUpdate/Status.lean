import SspUpdate.Text.Hex

/-!
# Response status

The first data byte of every response says what became of the command.
-/

namespace SspUpdate

inductive Status where
  | ok
  | unknownCommand
  | wrongParameters
  | parameterOutOfRange
  | cannotProcess
  | softwareError
  | fail
  | keyNotSet
  | other (byte : UInt8)
  deriving DecidableEq, Repr

namespace Status

def ofByte (b : UInt8) : Status :=
  if b = 0xF0 then ok
  else if b = 0xF2 then unknownCommand
  else if b = 0xF3 then wrongParameters
  else if b = 0xF4 then parameterOutOfRange
  else if b = 0xF5 then cannotProcess
  else if b = 0xF6 then softwareError
  else if b = 0xF8 then fail
  else if b = 0xFA then keyNotSet
  else other b

def toByte : Status → UInt8
  | ok => 0xF0
  | unknownCommand => 0xF2
  | wrongParameters => 0xF3
  | parameterOutOfRange => 0xF4
  | cannotProcess => 0xF5
  | softwareError => 0xF6
  | fail => 0xF8
  | keyNotSet => 0xFA
  | other b => b

/-- Whether the device accepted the command. -/
def isOk (s : Status) : Bool := s = ok

def text : Status → String
  | ok => "OK"
  | unknownCommand => "unknown command"
  | wrongParameters => "wrong number of parameters"
  | parameterOutOfRange => "parameter out of range"
  | cannotProcess => "cannot process command"
  | softwareError => "software error"
  | fail => "command failed"
  | keyNotSet => "encryption key not set"
  | other b => "status " ++ Text.hexByte b

end Status

end SspUpdate
