import SspUpdate.Command
import SspUpdate.Packet.Decoder

/-!
# The packet channel

The channel of SSP devices: each command goes out as one packet whose sequence
flag alternates between completed exchanges, and the first packet from the
addressed device is the response. Silence and damaged packets are answered by
sending the same packet again, up to the number of attempts of the command.
-/

namespace SspUpdate

/-- The state of a packet channel: the sequence flag of the next packet. -/
structure Channel where
  sequence : Bool
  deriving DecidableEq, Repr

namespace Channel

variable {σ : Type} [SerialHost σ]

def new : Channel := ⟨true⟩

/-- The code of the command that starts a conversation. -/
def syncCode : UInt8 := 0x11

/-- The byte that holds the sequence flag and the address. -/
def seqAddr (sequence : Bool) (address : UInt8) : UInt8 :=
  (if sequence then sequenceBit else 0) ||| (address &&& addressMask)

/-- Takes bytes until they make a packet from `address`, or none comes any
more before the deadline. -/
def readPacket (address : UInt8) (deadline : Nat) : Nat → Decoder → LineM σ (Option Packet)
  | 0, _ => throw (.unfinished .patience)
  | patience + 1, decoder => do
    let remaining := deadline - (← Line.clock)
    match ← Line.receive remaining with
    | none => pure none
    | some b => do
      if decoder.restarts b then Line.note .packetRestarted
      match decoder.push b with
      | (.error e, _) => fail e
      | (.ok none, decoder) => readPacket address deadline patience decoder
      | (.ok (some p), decoder) =>
        if p.address = address then pure (some p) else do
          Line.note (.otherDevice p.address)
          readPacket address deadline patience decoder

/-- The packet that comes back from `address` within `ms` milliseconds. -/
def awaitReply (address : UInt8) (ms : Nat) : LineM σ (Option Packet) := do
  let deadline ← Line.deadline ms
  readPacket address deadline (← get).patience .idle

/-- Ends an exchange with a response: its first byte is the status, and the
next packet carries the other flag. -/
def complete (reply : Packet) : LinkM σ Channel Status := do
  Link.note (.packetReceived reply.data)
  match reply.data with
  | [] => fail .emptyResponse
  | b :: _ => do
    modify fun l => { l with
      channel := ⟨!l.channel.sequence⟩
      command := { l.command with response := reply.data } }
    pure (Status.ofByte b)

/-- The remaining `left` of `attempts` attempts; `last` is the last damage seen. -/
def exchange (packet : Bytes) (attempts : Nat) :
    (left : Nat) → (last : Option Error) → LinkM σ Channel Status
  | 0, last => do
    fail (last.getD (.noResponse (← get).command.address attempts))
  | left + 1, last => do
    let number := attempts - left
    let command := (← get).command
    Link.note (.packetSent number attempts packet)
    Link.onLine (Line.send packet)
    match ← attempt (Link.onLine (awaitReply command.address command.timeout)) with
    | .ok (some reply) => complete reply
    | .ok none => do
      Link.note (.silence command.address number attempts)
      exchange packet attempts left last
    | .error e =>
      if e.kind = .protocol then do
        Link.note (.badResponse number attempts e)
        exchange packet attempts left (some e)
      else fail e

/-- Sends the data of the command and waits for the response. -/
def transact : LinkM σ Channel Status := do
  let link ← get
  if link.command.encrypted then fail .encrypted
  else do
    let packet ← ofExcept
      (Packet.encode ⟨seqAddr link.channel.sequence link.command.address, link.command.data⟩)
    let attempts := max 1 link.command.retries.toNat
    exchange packet attempts attempts none

/-- Starts over: the flag is set and the sync command sent. -/
def sync : LinkM σ Channel Status := do
  modify fun l => { l with
    channel := ⟨true⟩
    command := { l.command with data := [syncCode] } }
  transact

instance : CommandChannel σ Channel where
  sync := sync
  send := transact

end Channel

end SspUpdate
