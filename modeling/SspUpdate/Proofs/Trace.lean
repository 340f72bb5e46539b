import SspUpdate.Proofs.Ends

/-!
# What a trace tells

Three readings of the entries of a trace: the bytes that the port took, the
bytes that came back, and whether the port itself was opened, closed or
switched on the way. A trace without the last is traffic on one open port.
-/

namespace SspUpdate

namespace Entry

/-- The bytes the port took in one call. -/
def sent : Entry → Bytes
  | .wrote data (.ok n) => data.take n
  | _ => []

/-- The byte that came back in one call. -/
def heard? : Entry → Option UInt8
  | .received _ (.ok b) => b
  | _ => none

/-- Calls that open, close or switch the port. -/
def IsControl : Entry → Prop
  | .opened .. | .closed .. | .switched .. => True
  | _ => False

instance : DecidablePred IsControl
  | .opened .. | .closed .. | .switched .. => .isTrue trivial
  | .wrote .. | .flushed .. | .received .. | .slept .. | .stopAsked .. | .progressed ..
  | .noted .. => .isFalse id

/-- The call did not send, and an action that gives up on it ends with `h`. -/
inductive Breaks : Entry → Halt → Prop where
  | write (data : Bytes) (e : IoError) : Breaks (.wrote data (.error e)) (.failed (.io e))
  | endless (data : Bytes) (e : IoError) (h : e.kind = .interrupted) :
    Breaks (.wrote data (.error e)) (.unfinished .patience)
  | stuck (data : Bytes) (h : data ≠ []) :
    Breaks (.wrote data (.ok 0)) (.failed (.io ⟨.writeZero, "failed to write whole buffer"⟩))
  | flush (e : IoError) : Breaks (.flushed (.error e)) (.failed (.io e))

end Entry

namespace Trace

/-- All bytes the port took. -/
def sent (t : Trace) : Bytes := t.flatMap Entry.sent

/-- All bytes that came back. -/
def heard (t : Trace) : Bytes := t.filterMap Entry.heard?

/-- The port is not opened, closed or switched. -/
def Traffic (t : Trace) : Prop := ∀ e ∈ t, ¬ e.IsControl

instance : DecidablePred Traffic := fun t =>
  inferInstanceAs (Decidable (∀ e ∈ t, ¬ e.IsControl))

/-- The rate of the port is not switched. -/
def Unswitched (t : Trace) : Prop := ∀ baud answer, Entry.switched baud answer ∉ t

/-- The port is only opened at one rate. -/
def OpenedAt (rate : UInt32) (t : Trace) : Prop :=
  ∀ port baud answer, Entry.opened port baud answer ∈ t → baud = rate

/-- The port keeps to one rate. -/
structure Steady (rate : UInt32) (t : Trace) : Prop where
  unswitched : t.Unswitched
  openedAt : t.OpenedAt rate

/-- Some call broke the sending off with `h`. -/
def Broken (t : Trace) (h : Halt) : Prop := ∃ e ∈ t, e.Breaks h

/-- Traffic without a byte in either direction. -/
structure Silent (t : Trace) : Prop where
  traffic : t.Traffic
  sent : t.sent = []
  heard : t.heard = []

@[simp] theorem sent_nil : sent [] = [] := rfl
@[simp] theorem heard_nil : heard [] = [] := rfl

@[simp] theorem sent_append (t u : Trace) : sent (t ++ u) = sent t ++ sent u :=
  List.flatMap_append

@[simp] theorem heard_append (t u : Trace) : heard (t ++ u) = heard t ++ heard u :=
  List.filterMap_append

@[simp] theorem sent_cons (e : Entry) (t : Trace) : sent (e :: t) = e.sent ++ sent t :=
  List.flatMap_cons

@[simp] theorem heard_cons (e : Entry) (t : Trace) :
    heard (e :: t) = e.heard?.toList ++ heard t := by
  cases h : e.heard? <;> simp [heard, h]

@[simp] theorem traffic_nil : Traffic [] := by simp [Traffic]

@[simp] theorem traffic_cons (e : Entry) (t : Trace) :
    Traffic (e :: t) ↔ ¬ e.IsControl ∧ Traffic t := by simp [Traffic]

@[simp] theorem traffic_append (t u : Trace) : Traffic (t ++ u) ↔ Traffic t ∧ Traffic u := by
  simp only [Traffic, List.mem_append]
  constructor
  · intro h; exact ⟨fun e he => h e (.inl he), fun e he => h e (.inr he)⟩
  · rintro ⟨ht, hu⟩ e (he | he)
    · exact ht e he
    · exact hu e he

@[simp] theorem unswitched_nil : Unswitched [] := by simp [Unswitched]

@[simp] theorem unswitched_cons (e : Entry) (t : Trace) :
    Unswitched (e :: t) ↔ (∀ baud answer, e ≠ .switched baud answer) ∧ Unswitched t := by
  simp only [Unswitched, List.mem_cons, not_or, forall_and, ne_comm]

@[simp] theorem unswitched_append (t u : Trace) :
    Unswitched (t ++ u) ↔ Unswitched t ∧ Unswitched u := by
  simp only [Unswitched, List.mem_append, not_or, forall_and]

theorem Traffic.unswitched {t : Trace} (h : Traffic t) : Unswitched t :=
  fun _ _ he => h _ he trivial

@[simp] theorem openedAt_nil (rate : UInt32) : OpenedAt rate [] := by simp [OpenedAt]

@[simp] theorem openedAt_cons (rate : UInt32) (e : Entry) (t : Trace) :
    OpenedAt rate (e :: t) ↔
      (∀ port baud answer, e = .opened port baud answer → baud = rate) ∧ OpenedAt rate t := by
  simp only [OpenedAt, List.mem_cons, or_imp, forall_and, eq_comm (b := e)]

@[simp] theorem openedAt_append (rate : UInt32) (t u : Trace) :
    OpenedAt rate (t ++ u) ↔ OpenedAt rate t ∧ OpenedAt rate u := by
  simp only [OpenedAt, List.mem_append, or_imp, forall_and]

theorem Traffic.append {t u : Trace} (h : Traffic t) (h' : Traffic u) : Traffic (t ++ u) :=
  (traffic_append t u).mpr ⟨h, h'⟩

theorem Traffic.steady {t : Trace} (h : Traffic t) (rate : UInt32) : Steady rate t :=
  ⟨h.unswitched, fun _ _ _ he => (h _ he trivial).elim⟩

@[simp] theorem steady_append (rate : UInt32) (t u : Trace) :
    Steady rate (t ++ u) ↔ Steady rate t ∧ Steady rate u := by
  constructor
  · rintro ⟨hs, ho⟩
    rw [unswitched_append] at hs
    rw [openedAt_append] at ho
    exact ⟨⟨hs.1, ho.1⟩, hs.2, ho.2⟩
  · rintro ⟨ht, hu⟩
    exact ⟨(unswitched_append t u).mpr ⟨ht.unswitched, hu.unswitched⟩,
      (openedAt_append rate t u).mpr ⟨ht.openedAt, hu.openedAt⟩⟩

theorem Steady.append {rate : UInt32} {t u : Trace} (h : Steady rate t) (h' : Steady rate u) :
    Steady rate (t ++ u) := (steady_append rate t u).mpr ⟨h, h'⟩

theorem Silent.nil : Silent [] := ⟨by simp, rfl, rfl⟩

theorem Silent.append {t u : Trace} (h : Silent t) (h' : Silent u) : Silent (t ++ u) where
  traffic := h.traffic.append h'.traffic
  sent := by rw [sent_append, h.sent, h'.sent, List.append_nil]
  heard := by rw [heard_append, h.heard, h'.heard, List.append_nil]

theorem Silent.sent_before {t : Trace} (h : Silent t) (u : Trace) :
    Trace.sent (t ++ u) = Trace.sent u := by
  rw [sent_append, h.sent, List.nil_append]

theorem Silent.note (n : Note) : Silent [.noted n] := ⟨by simp [Entry.IsControl], rfl, rfl⟩

theorem Silent.report (p : Progress) : Silent [.progressed p] :=
  ⟨by simp [Entry.IsControl], rfl, rfl⟩

theorem Broken.right {t : Trace} {h : Halt} (hb : Broken t h) (u : Trace) : Broken (u ++ t) h := by
  obtain ⟨e, he, hb⟩ := hb
  exact ⟨e, List.mem_append_right u he, hb⟩

end Trace

end SspUpdate
