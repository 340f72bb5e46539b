import SspUpdate.Journal

/-!
# Polled reading

Reading one byte within a time limit from a stream that can only say whether
input is waiting: ask, sleep a little, ask again. Input that is already there
is taken even when the limit is zero.
-/

namespace SspUpdate

/-- A stream that tells whether input waits, on a host with a clock. -/
class ByteSource (σ : Type) where
  available : σ → Except Error Bool × σ
  /-- Up to the given number of bytes; none at the end of the stream. -/
  read : Nat → σ → Except IoError Bytes × σ
  clock : σ → Nat
  sleep : Nat → σ → σ

namespace ByteSource

variable {σ : Type} [ByteSource σ]

/-- Milliseconds between two questions. -/
def pollInterval : Nat := 1

/-- Waits until input is there (`true`) or the limit has passed (`false`). -/
def await (start ms : Nat) : Nat → σ → Except Halt Bool × σ
  | 0, s => (.error (.unfinished .patience), s)
  | patience + 1, s =>
    match available s with
    | (.error e, s) => (.error (.failed e), s)
    | (.ok true, s) => (.ok true, s)
    | (.ok false, s) =>
      if ms < clock s - start then (.ok false, s)
      else await start ms patience (sleep pollInterval s)

/-- Reads exactly one byte; an interrupted call is made again. -/
def readByte : Nat → σ → Except Halt UInt8 × σ
  | 0, s => (.error (.unfinished .patience), s)
  | patience + 1, s =>
    match read 1 s with
    | (.ok (b :: _), s) => (.ok b, s)
    | (.ok [], s) => (.error (.failed (.io ⟨.unexpectedEof, "failed to fill whole buffer"⟩)), s)
    | (.error e, s) =>
      if e.kind = .interrupted then readByte patience s else (.error (.failed (.io e)), s)

/-- The next byte, if input is there before `ms` milliseconds have passed. -/
def readWithin (patience ms : Nat) (s : σ) : Except Halt (Option UInt8) × σ :=
  match await (clock s) ms patience s with
  | (.error h, s) => (.error h, s)
  | (.ok false, s) => (.ok none, s)
  | (.ok true, s) =>
    match readByte patience s with
    | (.ok b, s) => (.ok (some b), s)
    | (.error h, s) => (.error h, s)

end ByteSource

end SspUpdate
