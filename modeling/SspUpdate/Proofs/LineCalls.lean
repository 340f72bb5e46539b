import SspUpdate.Proofs.Trace

/-!
# Calls on a line

How sending and receiving on a line end, over every host. Sending gives the
port the data and nothing else, in however many calls; only when all calls
were answered does it end well, and when it does not, the trace has the call
that broke. Receiving is one call.
-/

namespace SspUpdate

/-- How sending `data` can go: all of it went out, or a call broke and a first part did. -/
structure Sends (data : Bytes) (r : Except Halt Unit) (t : Trace) : Prop where
  traffic : t.Traffic
  heard : t.heard = []
  cut : t.sent <+: data
  whole : r = .ok () → t.sent = data
  broken : ∀ h, r = .error h → t.Broken h

/-- One more call in front that took a first part of the data. -/
theorem Sends.cons {data : Bytes} {r : Except Halt Unit} {t : Trace} {answer : Except IoError Nat}
    {rest : Bytes} (hd : (Entry.wrote data answer).sent ++ rest = data)
    (h : Sends rest r t) : Sends data r (.wrote data answer :: t) where
  traffic := by simp [Entry.IsControl, h.traffic]
  heard := by simp [Entry.heard?, h.heard]
  cut := by
    have hcut := (List.prefix_append_right_inj (Entry.wrote data answer).sent).mpr h.cut
    rwa [hd] at hcut
  whole hr := by rw [Trace.sent_cons, h.whole hr, hd]
  broken e he := (h.broken e he).right [_]

/-- What is sent in two goes is sent, whatever silence lies between. -/
theorem Sends.append {data rest : Bytes} {r : Except Halt Unit} {t u : Trace}
    (h : Sends data (.ok ()) t) (h' : Sends rest r u) : Sends (data ++ rest) r (t ++ u) where
  traffic := h.traffic.append h'.traffic
  heard := by rw [Trace.heard_append, h.heard, h'.heard, List.append_nil]
  cut := by
    rw [Trace.sent_append, h.whole rfl]
    exact (List.prefix_append_right_inj data).mpr h'.cut
  whole hr := by rw [Trace.sent_append, h.whole rfl, h'.whole hr]
  broken e he := (h'.broken e he).right t

/-- Sending that broke sends no more. -/
theorem Sends.extend {data : Bytes} {e : Halt} {t : Trace} (h : Sends data (.error e) t)
    (rest : Bytes) : Sends (data ++ rest) (.error e) t where
  traffic := h.traffic
  heard := h.heard
  cut := h.cut.trans (List.prefix_append data rest)
  whole hr := by cases hr
  broken := h.broken

theorem Sends.silence {t : Trace} (h : t.Silent) : Sends [] (.ok ()) t where
  traffic := h.traffic
  heard := h.heard
  cut := h.sent ▸ List.prefix_rfl
  whole _ := h.sent
  broken e he := by cases he

theorem Sends.after_silence {data : Bytes} {r : Except Halt Unit} {t u : Trace} (ht : t.Silent)
    (h : Sends data r u) : Sends data r (t ++ u) := (Sends.silence ht).append h

section Sending

variable {σ : Type} [SerialHost σ]

/-- A call that broke ends the sending; nothing went out in it. -/
theorem Sends.stop {data : Bytes} {answer : Except IoError Nat} {h : Halt}
    (hb : (Entry.wrote data answer).Breaks h) (hs : (Entry.wrote data answer).sent = []) :
    Sends data (.error h) [.wrote data answer] where
  traffic := by simp [Entry.IsControl]
  heard := by simp [Entry.heard?]
  cut := by simp [hs]
  whole hr := by cases hr
  broken e he := by
    cases he
    exact ⟨_, List.mem_cons_self, hb⟩

/-- Writing goes by the data while calls are answered, and by the patience while they are
interrupted. -/
theorem writeAll_sends (patience : Nat) (data : Bytes) (l : Line σ) :
    Ends (Line.writeAll patience data) l fun r t _ => Sends data r t := by
  induction patience, data using Line.writeAll.induct generalizing l with
  | case1 patience data hne ihData ihWait =>
    rw [Line.writeAll.eq_def, dif_pos hne]
    refine Ends.andThen (P := fun r t _ => ∃ a, r = .ok a ∧ t = [.wrote data a])
      (ask_ends (fun a s' h => h) fun a s' => ⟨a, rfl, rfl⟩) ?_ ?_
    · rintro a _ l' ⟨_, ⟨⟩, rfl⟩
      match a with
      | .ok 0 => exact Ends.failed (Sends.stop (.stuck data hne) rfl)
      | .ok (n + 1) =>
        refine (ihData n l').weaken fun r t _ h => ?_
        exact Sends.cons (List.take_append_drop (n + 1) data) h
      | .error e =>
        dsimp only
        split
        · next hi =>
          cases patience with
          | zero => exact Ends.thrown (Sends.stop (.endless data e hi) rfl)
          | succ patience => exact (ihWait l').weaken fun r t _ h => Sends.cons rfl h
        · exact Ends.failed (Sends.stop (.write data e) rfl)
    · rintro e t _ ⟨a, h, -⟩
      cases h
  | case2 patience data hne =>
    rw [Line.writeAll.eq_def, dif_neg hne]
    have hd : data = [] := Classical.not_not.mp hne
    exact Ends.value ⟨by simp, rfl, by simp, fun _ => by simp [hd], fun h hr => by cases hr⟩

/-- Flushing after the data adds no byte, and may break too. -/
theorem send_sends (data : Bytes) (l : Line σ) :
    Ends (Line.send data) l fun r t _ => Sends data r t := by
  refine Ends.read (Ends.andThen (writeAll_sends _ data l) ?_ ?_)
  · intro _ t l' hs
    refine Ends.andThen (P := fun r u _ => ∃ a, r = .ok a ∧ u = [.flushed a])
      (ask_ends (fun a s' h => h) fun a s' => ⟨a, rfl, rfl⟩) ?_ ?_
    · rintro a _ l'' ⟨_, ⟨⟩, rfl⟩
      have ht : Trace.Traffic (t ++ [.flushed a]) := by simp [Entry.IsControl, hs.traffic]
      have hh : Trace.heard (t ++ [.flushed a]) = [] := by simp [Entry.heard?, hs.heard]
      have hw : Trace.sent (t ++ [.flushed a]) = data := by simp [Entry.sent, hs.whole rfl]
      cases a with
      | ok _ =>
        refine Ends.value ?_
        rw [List.append_nil]
        exact ⟨ht, hh, hw ▸ List.prefix_rfl, fun _ => hw, fun h hr => by cases hr⟩
      | error e =>
        refine Ends.failed ?_
        rw [List.append_nil]
        refine ⟨ht, hh, hw ▸ List.prefix_rfl, fun hr => (by cases hr), fun h hr => ?_⟩
        cases hr
        exact Trace.Broken.right ⟨_, List.mem_cons_self, .flush e⟩ t
    · rintro h u _ ⟨a, ha, -⟩
      cases ha
  · exact fun _ _ _ hs => hs

/-- Receiving is one call, and ends as the call does. -/
theorem receive_ends (ms : Nat) (l : Line σ) :
    Ends (Line.receive ms) l fun r t _ => t = [.received ms r] := by
  refine Ends.read (Ends.andThen (P := fun r t _ => ∃ a, r = .ok a ∧ t = [.received ms a])
    (ask_ends (fun a s' h => h) fun a s' => ⟨a, rfl, rfl⟩) ?_ ?_)
  · rintro a _ l' ⟨_, ⟨⟩, rfl⟩
    cases a with
    | ok b => exact Ends.value rfl
    | error h => exact Ends.thrown rfl
  · rintro h t _ ⟨a, ha, -⟩
    cases ha

theorem report_ends (p : Progress) (l : Line σ) :
    Ends (Line.report p) l fun r t _ => r = .ok () ∧ t = [.progressed p] := by
  refine Ends.andThen (P := fun r t _ => r = .ok () ∧ t = [.progressed p])
    (ask_ends (fun _ _ h => (congrArg Prod.snd h)) fun _ _ => ⟨rfl, rfl⟩) ?_ ?_
  · rintro _ _ l' ⟨-, rfl⟩
    exact Ends.value ⟨rfl, rfl⟩
  · rintro h _ _ ⟨hr, -⟩
    cases hr

/-- A note is one more entry in front. -/
theorem noted {α : Type} {n : Note} {k : Unit → LineM σ α} {l : Line σ}
    {Q : Except Halt α → Trace → Line σ → Prop}
    (h : ∀ l', Ends (k ()) l' fun r t l'' => Q r (.noted n :: t) l'') :
    Ends (Line.note n >>= k) l Q :=
  Ends.andThen (P := fun r t _ => r = .ok () ∧ t = [.noted n]) (note_ends ⟨rfl, rfl⟩)
    (fun _ _ l' hp => hp.2 ▸ h l') fun _ _ _ hp => by cases hp.1

/-- A note that may be left out is silence in front. -/
theorem maybe_noted {α : Type} {c : Prop} [Decidable c] {n : Note} {act : LineM σ α} {l : Line σ}
    {Q : Except Halt α → Trace → Line σ → Prop}
    (h : ∀ notes : Trace, notes.Silent → ∀ l', Ends act l' fun r t l'' => Q r (notes ++ t) l'') :
    Ends (if c then (do Line.note n; act) else act) l Q := by
  split
  · exact noted fun l' => h [.noted n] (.note n) l'
  · exact h [] .nil l

/-- Reading the clock adds nothing. -/
theorem clocked {α : Type} {k : Nat → LineM σ α} {l : Line σ}
    {Q : Except Halt α → Trace → Line σ → Prop} (h : ∀ now, Ends (k now) l Q) :
    Ends (Line.clock >>= k) l Q := h (SerialHost.clock l.host)

/-- A deadline is an instant of the clock, which may not go so far. -/
theorem deadlined {α : Type} {ms : Nat} {k : Nat → LineM σ α} {l : Line σ}
    {Q : Except Halt α → Trace → Line σ → Prop} (h : ∀ deadline, Ends (k deadline) l Q)
    (hover : Q (.error (.unfinished .overflow)) [] l) : Ends (Line.deadline ms >>= k) l Q := by
  change Ends (checked (timeAfter _ _ ms) >>= k) l Q
  cases hdeadline : timeAfter (SerialHost.lastInstant l.host) (SerialHost.clock l.host) ms with
  | none => exact Ends.overflows rfl hover
  | some deadline => exact Ends.fits rfl (h deadline)

end Sending

end SspUpdate
