import SspUpdate.Line
import SspUpdate.Line.Polling

/-!
# The simulated wire

A host whose port is a queue in memory. Bytes appear in the receive queue at
the start, or as the next scripted reply after each flush. Calls can be told
to fail by their number, writes to take only a few bytes at a time, and the
wire keeps a list of what was done to it. Time passes only in pauses, and has
no end.
-/

namespace SspUpdate

/-- The calls that can be told to fail. -/
inductive Wire.Call where
  | write
  | flush
  | read
  | baud
  | closing
  | opening
  deriving DecidableEq, Repr

/-- What a call that is told to fail answers. -/
inductive Wire.Defect where
  | io (cause : IoError)
  | nothing
  | error (cause : Error)
  deriving DecidableEq, Repr

/-- Calls number `first` up to `first + times` of one kind fail. -/
structure Wire.Fault where
  call : Wire.Call
  first : Nat
  times : Nat
  defect : Wire.Defect
  deriving DecidableEq, Repr

inductive Wire.Event where
  | opened (port : String) (baud : UInt32)
  | closed
  | switched (baud : UInt32)
  | wrote (data : Bytes)
  | progressed (progress : Progress)
  | faulted (call : Wire.Call)
  deriving DecidableEq, Repr

/-- How many calls of each kind were made. -/
structure Wire.Tally where
  write : Nat := 0
  flush : Nat := 0
  read : Nat := 0
  baud : Nat := 0
  closing : Nat := 0
  opening : Nat := 0
  deriving DecidableEq, Repr

structure Wire where
  queue : Bytes := []
  replies : List Bytes := []
  writeLimit : Option Nat := none
  faults : List Wire.Fault := []
  /-- The answer to the question for input when the queue is empty. -/
  emptyError : Option Error := none
  /-- After how many questions a stop is requested. -/
  stopAfter : Option Nat := none
  calls : Wire.Tally := {}
  /-- What was done, newest first. -/
  events : List Wire.Event := []
  clock : Nat := 0
  /-- Name of the port that was opened last. -/
  port : String := ""
  /-- Rate the port was last opened at or switched to. -/
  baud : UInt32 := 9600

namespace Wire

namespace Tally

def get (t : Tally) : Call → Nat
  | .write => t.write
  | .flush => t.flush
  | .read => t.read
  | .baud => t.baud
  | .closing => t.closing
  | .opening => t.opening

def bump (t : Tally) : Call → Tally
  | .write => { t with write := t.write + 1 }
  | .flush => { t with flush := t.flush + 1 }
  | .read => { t with read := t.read + 1 }
  | .baud => { t with baud := t.baud + 1 }
  | .closing => { t with closing := t.closing + 1 }
  | .opening => { t with opening := t.opening + 1 }

end Tally

/-- The first fault that covers call number `n` of its kind. -/
def defect? (w : Wire) (call : Call) : Option Defect :=
  let n := w.calls.get call
  (w.faults.find? fun f => f.call = call ∧ f.first ≤ n ∧ n < f.first + f.times).map Fault.defect

/-- Counts a call. -/
def count (w : Wire) (call : Call) : Wire := { w with calls := w.calls.bump call }

def log (w : Wire) (e : Event) : Wire := { w with events := e :: w.events }

/-- Answers a call: as its fault says, or by `act`. -/
def answer {ε α : Type} (call : Call) (onDefect : Defect → Except ε α)
    (act : Wire → Except ε α × Wire) (w : Wire) : Except ε α × Wire :=
  match w.defect? call with
  | some d => (onDefect d, (w.count call).log (.faulted call))
  | none => act (w.count call)

/-- What a faulty stream call answers; `none` stands for a call that did nothing. -/
def streamDefect {α : Type} (idle : α) : Defect → Except IoError α
  | .io cause => .error cause
  | .nothing => .ok idle
  | .error cause => .error ⟨.other, cause.message⟩

def portDefect : Defect → Except Error Unit
  | .io cause => .error (.io cause)
  | .nothing => .ok ()
  | .error cause => .error cause

def openPort (port : String) (baud : UInt32) : Wire → Except Error Unit × Wire :=
  answer .opening portDefect fun w =>
    (.ok (), { w with port, baud }.log (.opened port baud))

def closePort : Wire → Except Error Unit × Wire :=
  answer .closing portDefect fun w => (.ok (), w.log .closed)

def setBaud (baud : UInt32) : Wire → Except Error Unit × Wire :=
  answer .baud portDefect fun w => (.ok (), { w with baud }.log (.switched baud))

def write (data : Bytes) : Wire → Except IoError Nat × Wire :=
  answer .write (streamDefect 0) fun w =>
    let accepted := match w.writeLimit with
      | some n => data.take n
      | none => data
    (.ok accepted.length, w.log (.wrote accepted))

def flush : Wire → Except IoError Unit × Wire :=
  answer .flush (streamDefect ()) fun w =>
    match w.replies with
    | [] => (.ok (), w)
    | reply :: rest => (.ok (), { w with queue := w.queue ++ reply, replies := rest })

def available (w : Wire) : Except Error Bool × Wire :=
  if w.queue.isEmpty then
    match w.emptyError with
    | some e => (.error e, w)
    | none => (.ok false, w)
  else (.ok true, w)

def read (count : Nat) : Wire → Except IoError Bytes × Wire :=
  answer .read (streamDefect []) fun w =>
    if w.queue.isEmpty then (.error ⟨.timedOut, "no data"⟩, w)
    else (.ok (w.queue.take count), { w with queue := w.queue.drop count })

def stopRequested (w : Wire) : Bool × Wire :=
  match w.stopAfter with
  | none => (false, w)
  | some 0 => (true, w)
  | some (n + 1) => (false, { w with stopAfter := some n })

instance : ByteSource Wire where
  available := available
  read := read
  clock := Wire.clock
  sleep ms w := { w with clock := w.clock + ms }

instance : SerialHost Wire where
  openPort := openPort
  closePort := closePort
  setBaud := setBaud
  write := write
  flush := flush
  readWithin := ByteSource.readWithin
  clock := Wire.clock
  lastInstant _ := none
  sleep ms w := { w with clock := w.clock + ms }
  stopRequested := stopRequested
  report p w := w.log (.progressed p)

end Wire

end SspUpdate
