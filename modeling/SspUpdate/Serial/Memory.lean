import SspUpdate.Serial.Driver

/-!
# A device in memory

A driver with one device that is already open: a receive queue, reads that can
be scripted, and settings that can be made to fail.
-/

namespace SspUpdate.Serial

/-- What a scripted read answers. -/
inductive ScriptedRead where
  | nothing
  | error (kind : IoKind)
  deriving DecidableEq, Repr

structure Memory where
  name : Option String
  queue : Bytes
  script : List ScriptedRead
  /-- With a text, every question but reads and writes fails with it. -/
  broken : Option String
  baud : UInt32
  timeout : Nat
  sent : Bytes := []
  cleared : Nat := 0
  deriving DecidableEq, Repr

namespace Memory

/-- Answers unless the device is broken. -/
def unlessBroken {α : Type} (act : Memory → α × Memory) (m : Memory) : Except String α × Memory :=
  match m.broken with
  | some text => (.error text, m)
  | none =>
    let (a, m) := act m
    (.ok a, m)

def read (count : Nat) (m : Memory) : Except IoError Bytes × Memory :=
  match m.script with
  | .nothing :: script => (.ok [], { m with script })
  | .error kind :: script => (.error ⟨kind, "scripted"⟩, { m with script })
  | [] =>
    if m.queue.isEmpty then (.error ⟨.timedOut, "no data"⟩, m)
    else (.ok (m.queue.take count), { m with queue := m.queue.drop count })

instance : Driver Memory where
  openDevice _ m := (.error "device is in use", m)
  release m := m
  setTimeout ms := unlessBroken fun m => ((), { m with timeout := ms })
  setBaud baud := unlessBroken fun m => ((), { m with baud })
  bytesToRead := unlessBroken fun m => (m.queue.length, m)
  clear := unlessBroken fun m => ((), { m with queue := [], cleared := m.cleared + 1 })
  read := read
  write data m := (.ok data.length, { m with sent := m.sent ++ data })
  flush m := (.ok (), m)
  clock _ := 0
  lastInstant _ := none
  sleep _ m := m

/-- The device as an open port. -/
def attached (m : Memory) : Attached Memory :=
  ⟨m, ⟨m.name.getD "", m.timeout, if m.broken.isSome then commandBaud else m.baud, true⟩, false⟩

end Memory

end SspUpdate.Serial
