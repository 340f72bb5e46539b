import SspUpdate.Status

/-!
# Errors and outcomes

Everything that can end an operation early, by cause. A cause belongs to one
of twelve kinds, a kind to one outcome code, and the message is the kind's
heading followed by the detail of the cause.
-/

namespace SspUpdate

/-- Why a single read, write or flush on a stream failed. -/
inductive IoKind where
  | notFound
  | notConnected
  | brokenPipe
  | timedOut
  | interrupted
  | unexpectedEof
  | writeZero
  | other
  deriving DecidableEq, Repr

structure IoError where
  kind : IoKind
  text : String
  deriving DecidableEq, Repr

inductive Kind where
  | io
  | serial
  | fileNotFound
  | fileError
  | invalidFileType
  | port
  | noValidator
  | sendProgramCmd
  | timeout
  | badChecksum
  | deviceDidNotAck
  | protocol
  deriving DecidableEq, Repr

/-- Steps of the main stage that the device answers with an acknowledgement. -/
inductive Step where
  | handshake
  | header
  deriving DecidableEq, Repr

def Step.text : Step → String
  | .handshake => "handshake"
  | .header => "header"

inductive Error where
  | io (cause : IoError)
  | serial (text : String)
  | fileNotFound (path : String)
  | cannotOpen (path reason : String)
  | cannotRead (path reason : String)
  | imageTooSmall (size : Nat)
  | badTag (tag : Bytes)
  | noMainStage (ramSize size : Nat)
  | spanOutOfBounds (offset count size : Nat)
  | ramOverrunsImage
  | headerRejected (status : Status)
  | headerNotSent (cause : Error)
  | portNotOpen (port : String)
  | portClosed (port : String)
  | portFailed (port : String) (cause : Error)
  | cannotOpenPort (port : String) (cause : Error)
  | noPorts
  | syncAnswered (status : Status)
  | syncFailed (cause : Error)
  | programNotSent (cause : Error)
  | programRejected (status : Status)
  | noBlockSize (response : Bytes)
  | blockSizeZero
  | noByteWithin (ms : Nat)
  | noResponse (address : UInt8) (attempts : Nat)
  | resyncInterrupted
  | noResync (seconds : Nat)
  | badChecksum (expected actual : UInt8)
  | notAcknowledged (step : Step) (received : UInt8)
  | dataTooLong (size : Nat)
  | crcMismatch (expected received : UInt16)
  | encrypted
  | emptyResponse
  | reported (kind : Kind) (text : String)
  deriving DecidableEq, Repr

/-- Numeric result of an update; the codes double as exit codes. -/
inductive Outcome where
  | ok
  | fileNotFound
  | fileError
  | invalidFileType
  | portError
  | noValidator
  | sendProgramCmdError
  | timeout
  | badChecksum
  | deviceDidNotAck
  deriving DecidableEq, Repr

namespace Outcome

def code : Outcome → Nat
  | ok => 0
  | fileNotFound => 1
  | fileError => 2
  | invalidFileType => 3
  | portError => 4
  | noValidator => 5
  | sendProgramCmdError => 6
  | timeout => 7
  | badChecksum => 8
  | deviceDidNotAck => 9

def name : Outcome → String
  | ok => "ok"
  | fileNotFound => "file_not_found"
  | fileError => "file_error"
  | invalidFileType => "invalid_file_type"
  | portError => "port_error"
  | noValidator => "no_validator"
  | sendProgramCmdError => "send_program_cmd_error"
  | timeout => "timeout"
  | badChecksum => "bad_checksum"
  | deviceDidNotAck => "device_did_not_ack"

def text (o : Outcome) : String := o.name ++ " (0x" ++ Text.lowerHex 2 o.code ++ ")"

end Outcome

namespace Kind

def outcome : Kind → Outcome
  | io | serial | port | protocol => .portError
  | fileNotFound => .fileNotFound
  | fileError => .fileError
  | invalidFileType => .invalidFileType
  | noValidator => .noValidator
  | sendProgramCmd => .sendProgramCmdError
  | timeout => .timeout
  | badChecksum => .badChecksum
  | deviceDidNotAck => .deviceDidNotAck

/-- The words every message of the kind starts with. -/
def heading : Kind → String
  | io => "I/O error"
  | serial => "Serial port error"
  | fileNotFound => "Firmware file not found"
  | fileError => "Firmware file error"
  | invalidFileType => "Invalid file type"
  | port => "Port error"
  | noValidator => "No validator found"
  | sendProgramCmd => "Program command rejected"
  | timeout => "Timeout"
  | badChecksum => "Checksum mismatch"
  | deviceDidNotAck => "Device did not acknowledge"
  | protocol => "Protocol error"

end Kind

namespace Error

def kind : Error → Kind
  | io _ => .io
  | serial _ => .serial
  | fileNotFound _ => .fileNotFound
  | cannotOpen .. | cannotRead .. => .fileError
  | imageTooSmall _ | badTag _ | noMainStage .. | spanOutOfBounds .. | ramOverrunsImage
  | headerRejected _ | headerNotSent _ => .invalidFileType
  | portNotOpen _ | portClosed _ | portFailed .. | cannotOpenPort .. | noPorts => .port
  | syncAnswered _ | syncFailed _ => .noValidator
  | programNotSent _ | programRejected _ | noBlockSize _ | blockSizeZero => .sendProgramCmd
  | noByteWithin _ | noResponse .. | resyncInterrupted | noResync _ => .timeout
  | badChecksum .. => .badChecksum
  | notAcknowledged .. => .deviceDidNotAck
  | dataTooLong _ | crcMismatch .. | encrypted | emptyResponse => .protocol
  | reported kind _ => kind

def outcome (e : Error) : Outcome := e.kind.outcome

/-- The heading of the kind, then what happened. -/
def message : Error → String
  | io cause => Kind.io.heading ++ ": " ++ cause.text
  | serial text => Kind.serial.heading ++ ": " ++ text
  | fileNotFound path => Kind.fileNotFound.heading ++ ": " ++ path
  | cannotOpen path reason =>
    Kind.fileError.heading ++ ": cannot open " ++ path ++ ": " ++ reason
  | cannotRead path reason =>
    Kind.fileError.heading ++ ": cannot read " ++ path ++ ": " ++ reason
  | imageTooSmall size =>
    Kind.invalidFileType.heading ++ s!": image too small for header ({size} < 128 bytes)"
  | badTag tag =>
    Kind.invalidFileType.heading ++ ": bad tag " ++ Text.hexList tag ++ ", expected \"ITL\""
  | noMainStage ramSize size =>
    Kind.invalidFileType.heading ++
      s!": RAM stage of {ramSize} bytes leaves no main stage in a {size}-byte image"
  | spanOutOfBounds offset count size =>
    Kind.invalidFileType.heading ++
      s!": span {offset}+{count} out of bounds (image size {size})"
  | ramOverrunsImage => Kind.invalidFileType.heading ++ ": RAM stage overruns image"
  | headerRejected status =>
    Kind.invalidFileType.heading ++ ": device rejected image header: " ++ status.text
  | headerNotSent cause =>
    Kind.invalidFileType.heading ++ ": failed to send image header: " ++ cause.message
  | portNotOpen port => Kind.port.heading ++ ": " ++ port ++ " is not open"
  | portClosed port => Kind.port.heading ++ ": " ++ port ++ " is closed"
  | portFailed port cause => Kind.port.heading ++ ": " ++ port ++ ": " ++ cause.message
  | cannotOpenPort port cause =>
    Kind.port.heading ++ ": cannot open " ++ port ++ ": " ++ cause.message
  | noPorts => Kind.port.heading ++ ": no serial ports found"
  | syncAnswered status => Kind.noValidator.heading ++ ": sync answered " ++ status.text
  | syncFailed cause => Kind.noValidator.heading ++ ": " ++ cause.message
  | programNotSent cause => Kind.sendProgramCmd.heading ++ ": " ++ cause.message
  | programRejected status =>
    Kind.sendProgramCmd.heading ++ ": program device command rejected: " ++ status.text
  | noBlockSize response =>
    Kind.sendProgramCmd.heading ++ ": no usable block size in response " ++ Text.hexList response
  | blockSizeZero => Kind.sendProgramCmd.heading ++ ": device reported block size 0"
  | noByteWithin ms => Kind.timeout.heading ++ s!": no byte within {ms}ms"
  | noResponse address attempts =>
    Kind.timeout.heading ++ s!": no response from address {address} after {attempts} attempts"
  | resyncInterrupted => Kind.timeout.heading ++ ": resync interrupted"
  | noResync seconds =>
    Kind.timeout.heading ++ s!": device did not resync within {seconds}s"
  | badChecksum expected actual =>
    Kind.badChecksum.heading ++ ": expected " ++ Text.hexByte expected ++ ", got " ++
      Text.hexByte actual
  | notAcknowledged step received =>
    Kind.deviceDidNotAck.heading ++ " " ++ step.text ++ ": got " ++ Text.hexByte received
  | dataTooLong size => Kind.protocol.heading ++ s!": packet data too long: {size} bytes"
  | crcMismatch expected received =>
    Kind.protocol.heading ++ ": CRC mismatch: expected " ++ Text.hexWord expected ++ ", got " ++
      Text.hexWord received
  | encrypted => Kind.protocol.heading ++ ": encrypted packets are not supported"
  | emptyResponse => Kind.protocol.heading ++ ": empty response"
  | reported kind text => kind.heading ++ ": " ++ text

/-- What the error was raised from, where the layer below has its own message. -/
def source? : Error → Option String
  | io cause => some cause.text
  | serial text => some text
  | _ => none

end Error

/-- The outcome code of a finished operation. -/
def Outcome.ofResult {α : Type} : Except Error α → Outcome
  | .ok _ => .ok
  | .error e => e.outcome

end SspUpdate
