import SspUpdate.Error

/-!
# The journal of a line

Everything that happens on a serial line during an update, in order: each
call on the port with its answer, each progress report, each question whether
to stop, and the milestones the update itself notes. Statements about runs are
statements about journals, and the log is a rendering of one.
-/

namespace SspUpdate

/-- Why an action was not brought to an end. -/
inductive Cut where
  /-- It was still waiting when its patience was used up. -/
  | patience
  /-- A number does not fit its word, and the program breaks down. -/
  | overflow
  deriving DecidableEq, Repr

/-- Why an action ended without a value: it failed, or it was not brought to an end. -/
inductive Halt where
  | failed (error : Error)
  | unfinished (cut : Cut)
  deriving DecidableEq, Repr

/-- The two transfers of an update. -/
inductive Stage where
  | ram
  | main
  deriving DecidableEq, Repr

def Stage.name : Stage → String
  | .ram => "ram"
  | .main => "main"

/-- Bytes of a stage sent so far, and its total. -/
structure Progress where
  stage : Stage
  sent : Nat
  total : Nat
  deriving DecidableEq, Repr

/-- A milestone of an update. -/
inductive Note where
  | addressRefused (text : List Char)
  | updating (address : UInt8) (port : String)
  | validatorFound
  | transferBaud (variant : UInt8) (baud : UInt32)
  | packetSent (attempt attempts : Nat) (packet : Bytes)
  | packetReceived (data : Bytes)
  | packetRestarted
  | otherDevice (address : UInt8)
  | silence (address : UInt8) (attempt attempts : Nat)
  | badResponse (attempt attempts : Nat) (error : Error)
  | blockSize (size : Nat)
  | sendingRam (size : Nat) (baud : UInt32)
  | ramVerified (checksum : UInt8)
  | ramAccepted
  | settling (ms : Nat) (port : String)
  | reopened (port : String) (baud : UInt32)
  | byteAwaited (expected received : UInt8)
  | acknowledged (step : Step)
  | sendingMain (size blocks blockSize remainder : Nat) (baud : UInt32)
  | blockVerified (index blocks : Nat)
  | remainderVerified (sections : Nat)
  | mainAccepted
  | resyncFailed (error : Error)
  | resyncAnswered (status : Status)
  | resynced (attempts : Nat)
  | complete
  deriving DecidableEq, Repr

inductive Entry where
  | opened (port : String) (baud : UInt32) (answer : Except Error Unit)
  | closed (port : String) (answer : Except Error Unit)
  | switched (baud : UInt32) (answer : Except Error Unit)
  | wrote (data : Bytes) (answer : Except IoError Nat)
  | flushed (answer : Except IoError Unit)
  | received (ms : Nat) (answer : Except Halt (Option UInt8))
  | slept (ms : Nat)
  | stopAsked (answer : Bool)
  | progressed (progress : Progress)
  | noted (note : Note)

end SspUpdate
