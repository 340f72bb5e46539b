import SspUpdate.Proofs.DriverCalls

/-!
# Reading with a timeout and by polling

A port can read a byte in two ways: it sets the timeout of the device and reads
until the limit has passed, or it asks for the length of the queue every now
and then and reads when there is something. On a device to which nothing is
added meanwhile the two are the same, although the first one looks at the clock
between its reads and both may be interrupted: they give the first byte of the
queue and take that byte only, or they give nothing and take nothing. The first
way begins with the instant at which the limit will have passed; finding it is
one more call that must not fail. Where the clock does not go so far, nothing is
asked of the device.
-/

namespace SspUpdate.Serial

/-- What can be told of a device by the state of its driver. -/
structure Receiver (δ : Type) where
  queue : δ → Bytes
  /-- How often reads will be interrupted at most. -/
  lapses : δ → Nat

namespace Receiver

variable {δ : Type} [Driver δ]

/-- Time may have passed from `d` to `d'`, and nothing else happened. -/
structure Idles (r : Receiver δ) (d d' : δ) : Prop where
  queue : r.queue d' = r.queue d
  lapses : r.lapses d' ≤ r.lapses d
  clock : Driver.clock d ≤ Driver.clock d'

/-- What comes of asking for one byte in state `d`. -/
inductive Reads (r : Receiver δ) (d : δ) : Except IoError Bytes × δ → Prop where
  | byte {b : UInt8} {rest : Bytes} {d' : δ} (hqueue : r.queue d = b :: rest)
      (hrest : r.queue d' = rest) : Reads r d (.ok [b], d')
  | timedOut {e : IoError} {d' : δ} (hkind : e.kind = .timedOut) (hempty : r.queue d = [])
      (hrest : r.queue d' = []) : Reads r d (.error e, d')
  | interrupted {e : IoError} {d' : δ} (hkind : e.kind = .interrupted)
      (hqueue : r.queue d' = r.queue d) (hfewer : r.lapses d' < r.lapses d) :
    Reads r d (.error e, d')

/-- Nothing is added to the queue, a read of the empty queue times out, and no call fails or
falls short, but that reads may be interrupted. -/
structure Quiet (r : Receiver δ) : Prop where
  setTimeout : ∀ (ms : Nat) (d : δ), (Driver.setTimeout ms d).1 = .ok () ∧
    r.Idles d (Driver.setTimeout ms d).2
  bytesToRead : ∀ d : δ, (Driver.bytesToRead d).1 = .ok (r.queue d).length ∧
    r.Idles d (Driver.bytesToRead d).2
  read : ∀ d : δ, r.Reads d (Driver.read 1 d)
  sleep : ∀ (ms : Nat) (d : δ), r.Idles d (Driver.sleep ms d) ∧
    Driver.clock d + ms ≤ Driver.clock (Driver.sleep ms d)

variable {r : Receiver δ}

theorem Idles.trans {d d' d'' : δ} (h : r.Idles d d') (h' : r.Idles d' d'') : r.Idles d d'' where
  queue := h'.queue.trans h.queue
  lapses := Nat.le_trans h'.lapses h.lapses
  clock := Nat.le_trans h.clock h'.clock

namespace Quiet

theorem not_refuses (quiet : r.Quiet) (text : String) : ¬ Refuses δ text := by
  rintro (⟨ms, d, h⟩ | ⟨d, h⟩)
  · cases (quiet.setTimeout ms d).1.symm.trans h
  · cases (quiet.bytesToRead d).1.symm.trans h

theorem idles_set (quiet : r.Quiet) {ms : Nat} {d d' : δ} {answer : Except String Unit}
    (h : Driver.setTimeout ms d = (answer, d')) : r.Idles d d' := by
  have hidle := (quiet.setTimeout ms d).2
  rwa [h] at hidle

theorem waits (quiet : r.Quiet) {d d' : δ} {n : Nat} (h : Driver.bytesToRead d = (.ok n, d')) :
    (r.queue d).length = n ∧ r.Idles d d' := by
  obtain ⟨hlength, hidle⟩ := quiet.bytesToRead d
  rw [h] at hlength hidle
  injection hlength with hlength
  exact ⟨hlength.symm, hidle⟩

/-- The driver is readied for a read, or the queue is empty at the deadline. -/
theorem readied (quiet : r.Quiet) {deadline : Nat} {d d' : δ} {answer : Except Error Bool}
    (h : Readied deadline d answer d') :
    r.Idles d d' ∧ (answer = .ok true ∨ answer = .ok false ∧ r.queue d = []) := by
  cases h with
  | passed hwaits =>
    obtain ⟨hlength, hidle⟩ := quiet.waits hwaits
    exact ⟨hidle, .inr ⟨rfl, List.eq_nil_of_length_eq_zero hlength⟩⟩
  | ready hasked hset =>
    have hidle := quiet.idles_set hset
    rcases hasked with rfl | ⟨n, hwaits⟩
    · exact ⟨hidle, .inl rfl⟩
    · exact ⟨(quiet.waits hwaits).2.trans hidle, .inl rfl⟩
  | refused h => exact absurd h (quiet.not_refuses _)

end Quiet

end Receiver

namespace Attached

open Receiver

variable {δ : Type} [Driver δ] {r : Receiver δ}

end Attached

/-- A device whose next reads are interrupted, and where a read of the empty queue waits as long
as its timeout. Its clock stops at some instant. -/
structure Restless where
  queue : Bytes
  lapses : Nat
  timeout : Nat := 1000
  clock : Nat := 0
  lastInstant : Nat := 5000
  deriving DecidableEq, Repr

namespace Restless

def read (count : Nat) (d : Restless) : Except IoError Bytes × Restless :=
  match d.lapses with
  | lapses + 1 => (.error ⟨.interrupted, "interrupted"⟩, { d with lapses })
  | 0 =>
    if d.queue.isEmpty then
      (.error ⟨.timedOut, "no data"⟩, { d with clock := d.clock + d.timeout })
    else (.ok (d.queue.take count), { d with queue := d.queue.drop count })

instance : Driver Restless where
  openDevice _ d := (.error "device is in use", d)
  release d := d
  setTimeout timeout d := (.ok (), { d with timeout })
  setBaud _ d := (.ok (), d)
  bytesToRead d := (.ok d.queue.length, d)
  clear d := (.ok (), { d with queue := [] })
  read := read
  write data d := (.ok data.length, d)
  flush d := (.ok (), d)
  clock := clock
  lastInstant d := some d.lastInstant
  sleep ms d := { d with clock := d.clock + ms }

def receiver : Receiver Restless := ⟨queue, lapses⟩

theorem reads_read (d : Restless) : receiver.Reads d (read 1 d) := by
  unfold read
  split
  · next hlapses =>
    exact .interrupted rfl rfl (Nat.lt_of_lt_of_eq (Nat.lt_succ_self _) hlapses.symm)
  · rcases hqueue : d.queue with _ | ⟨b, rest⟩
    · exact .timedOut rfl hqueue rfl
    · exact .byte hqueue rfl

theorem quiet : receiver.Quiet where
  setTimeout _ d := ⟨rfl, rfl, Nat.le_refl d.lapses, Nat.le_refl d.clock⟩
  bytesToRead d := ⟨rfl, rfl, Nat.le_refl d.lapses, Nat.le_refl d.clock⟩
  read := reads_read
  sleep _ d := ⟨⟨rfl, Nat.le_refl d.lapses, Nat.le_add_right d.clock _⟩, Nat.le_refl _⟩

/-- An open port with the word 23 in its queue. -/
def attached (lapses : Nat) : Attached Restless where
  driver := { queue := [0x32, 0x33], lapses }
  port := ⟨"p", 1000, commandBaud, true⟩

end Restless

end SspUpdate.Serial
