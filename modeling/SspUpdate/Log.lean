import SspUpdate.Address
import SspUpdate.Journal

/-!
# Log lines

What is said on the side, with a level and the part of the program that says
it. The journal of an update has its log lines too.
-/

namespace SspUpdate

inductive Level where
  | error
  | warn
  | info
  | debug
  | trace
  deriving DecidableEq, Repr

namespace Level

def name : Level → String
  | error => "ERROR"
  | warn => "WARN"
  | info => "INFO"
  | debug => "DEBUG"
  | trace => "TRACE"

/-- How much is let through where this is the most talkative level. -/
def rank : Level → Nat
  | error => 1
  | warn => 2
  | info => 3
  | debug => 4
  | trace => 5

end Level

structure LogLine where
  level : Level
  /-- The part of the program, as a path. -/
  target : String
  text : String
  deriving DecidableEq, Repr

namespace Target

def library (part : String) : String := "sspflash::" ++ part

def packets : String := library "protocol::ssp"

def transfer : String := library "protocol::transport"

def update : String := library "update"

def ramStage : String := library "update::ram_stage"

def mainStage : String := library "update::main_stage"

def session : String := library "update::session"

def port : String := library "port::native"

def device : String := library "device"

def image : String := library "image::itl"

def program : String := "sspflash"

def config : String := "sspflash::config"

def serial : String := "sspflash::serial"

end Target

/-- The log line of a milestone. -/
def Note.logLine : Note → LogLine
  | .addressRefused text => ⟨.warn, Target.packets, AddressReading.warning text⟩
  | .updating address port =>
    ⟨.info, Target.update, s!"Updating device at address {address} on " ++ port⟩
  | .validatorFound => ⟨.info, Target.update, "Validator found"⟩
  | .transferBaud variant baud =>
    ⟨.info, Target.update,
      "Image variant " ++ Text.hexByte variant ++ s!", transfer baud {baud}"⟩
  | .packetSent attempt attempts packet =>
    ⟨.trace, Target.packets, s!"SSP tx ({attempt}/{attempts}): " ++ Text.hexList packet⟩
  | .packetReceived data => ⟨.trace, Target.packets, "SSP rx: " ++ Text.hexList data⟩
  | .packetRestarted => ⟨.trace, Target.packets, "Unstuffed STX, restarting packet"⟩
  | .otherDevice address =>
    ⟨.trace, Target.packets, s!"Ignoring packet for address {address}"⟩
  | .silence address attempt attempts =>
    ⟨.debug, Target.packets, s!"No response from address {address} (attempt {attempt}/{attempts})"⟩
  | .badResponse attempt attempts e =>
    ⟨.debug, Target.packets, s!"Bad response (attempt {attempt}/{attempts}): " ++ e.message⟩
  | .blockSize size => ⟨.debug, Target.ramStage, s!"Device block size: {size}"⟩
  | .sendingRam size baud =>
    ⟨.info, Target.ramStage, s!"Sending RAM stage ({size} bytes) at {baud} baud"⟩
  | .ramVerified checksum =>
    ⟨.debug, Target.ramStage, "RAM stage checksum " ++ Text.hexByte checksum ++ " verified"⟩
  | .ramAccepted => ⟨.info, Target.update, "RAM stage accepted"⟩
  | .settling ms port =>
    ⟨.debug, Target.session, s!"Waiting {ms}ms before reopening " ++ port⟩
  | .reopened port baud =>
    ⟨.debug, Target.session, "Reopened " ++ port ++ s!" at {baud} baud"⟩
  | .byteAwaited expected received =>
    ⟨.trace, Target.transfer,
      "Waited for " ++ Text.hexByte expected ++ ", got " ++ Text.hexByte received⟩
  | .acknowledged step => ⟨.debug, Target.mainStage, "Device acknowledged " ++ step.text⟩
  | .sendingMain size blocks each remainder baud =>
    ⟨.info, Target.mainStage,
      s!"Sending main stage ({size} bytes, {blocks} blocks of {each}, " ++
        s!"{remainder} byte remainder) at {baud} baud"⟩
  | .blockVerified index blocks =>
    ⟨.trace, Target.mainStage, s!"Block {index}/{blocks} verified"⟩
  | .remainderVerified sections =>
    ⟨.debug, Target.mainStage, s!"Remainder ({sections} sections) verified"⟩
  | .mainAccepted => ⟨.info, Target.update, "Main stage accepted, waiting for device to restart"⟩
  | .resyncFailed e => ⟨.debug, Target.update, "Resync: " ++ e.message⟩
  | .resyncAnswered status =>
    ⟨.debug, Target.update, "Resync: sync answered " ++ status.text⟩
  | .resynced attempts => ⟨.debug, Target.update, s!"Resynced after {attempts} attempts"⟩
  | .complete => ⟨.info, Target.update, "Update complete"⟩

/-- What the log says about an entry of the journal of a serial port. -/
def Entry.logLine? : Entry → Option LogLine
  | .noted n => some n.logLine
  | .opened port baud (.ok ()) =>
    some ⟨.debug, Target.port, "Opened " ++ port ++ s!" at {baud} baud"⟩
  | .closed port _ => some ⟨.debug, Target.port, "Closed " ++ port⟩
  | .switched baud _ => some ⟨.trace, Target.port, s!"Setting baud rate to {baud}"⟩
  | _ => none

end SspUpdate
