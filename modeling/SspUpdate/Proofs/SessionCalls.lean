import SspUpdate.Proofs.LineCalls

/-!
# Calls on a session

Opening, closing and switching the port, over every host: each is one call,
and it ends as the call was answered. Of the session the state of the port and
its rate are followed here; its name never changes.
-/

namespace SspUpdate

/-- The call to the port was answered with an error. -/
inductive Entry.Fails : Entry → Prop where
  | opening (port : String) (baud : UInt32) (e : Error) : Fails (.opened port baud (.error e))
  | closing (port : String) (e : Error) : Fails (.closed port (.error e))
  | switching (baud : UInt32) (e : Error) : Fails (.switched baud (.error e))

theorem Error.kind_asPortError (port : String) (e : Error) : (e.asPortError port).kind = .port := by
  unfold asPortError
  split
  · assumption
  · rfl

section Calls

variable {σ : Type} [SerialHost σ]

/-- Asking the port to do something is one call, and ends as the call does. -/
theorem asked_ends {question : σ → Except Error Unit × σ} {entry : Except Error Unit → Entry}
    {l : Line σ}
    (hm : ∀ a s', question l.host = (a, s') → (entry a).Moves l.patience l.host s') :
    Ends (Line.ask question entry >>= ofExcept) l fun r t _ =>
      ∃ a, t = [entry a] ∧ r = a.mapError .failed := by
  refine Ends.andThen (P := fun r t _ => ∃ a, r = .ok a ∧ t = [entry a])
    (ask_ends hm fun a s' => ⟨a, rfl, rfl⟩) ?_ ?_
  · rintro a _ l' ⟨_, ⟨⟩, rfl⟩
    cases a with
    | ok _ => exact Ends.value ⟨_, rfl, rfl⟩
    | error e => exact Ends.failed ⟨_, rfl, rfl⟩
  · rintro h t _ ⟨a, ha, -⟩
    cases ha

theorem openPort_ends (port : String) (baud : UInt32) (l : Line σ) :
    Ends (Line.openPort port baud) l fun r t _ =>
      ∃ a, t = [.opened port baud a] ∧ r = a.mapError .failed :=
  asked_ends fun _ _ h => h

theorem closePort_ends (port : String) (l : Line σ) :
    Ends (Line.closePort port) l fun r t _ =>
      ∃ a, t = [.closed port a] ∧ r = a.mapError .failed :=
  asked_ends fun _ _ h => h

theorem setBaud_ends (baud : UInt32) (l : Line σ) :
    Ends (Line.setBaud baud) l fun r t _ =>
      ∃ a, t = [.switched baud a] ∧ r = a.mapError .failed :=
  asked_ends fun _ _ h => h

theorem sleep_ends (ms : Nat) (l : Line σ) :
    Ends (Line.sleep ms) l fun r t _ => r = .ok () ∧ t = [.slept ms] := by
  refine Ends.andThen (P := fun r t _ => r = .ok () ∧ t = [.slept ms])
    (ask_ends (fun _ _ h => congrArg Prod.snd h) fun _ _ => ⟨rfl, rfl⟩) ?_ ?_
  · rintro _ _ l' ⟨-, rfl⟩
    exact Ends.value ⟨rfl, rfl⟩
  · rintro h _ _ ⟨hr, -⟩
    cases hr

theorem stopRequested_ends (l : Line σ) :
    Ends Line.stopRequested l fun r t _ => ∃ a, r = .ok a ∧ t = [.stopAsked a] :=
  ask_ends (fun _ _ h => h) fun a _ => ⟨a, rfl, rfl⟩

end Calls

theorem Trace.Silent.sleep (ms : Nat) : Trace.Silent [.slept ms] :=
  ⟨by simp [Entry.IsControl], rfl, rfl⟩

theorem Trace.Silent.stopAsked (a : Bool) : Trace.Silent [.stopAsked a] :=
  ⟨by simp [Entry.IsControl], rfl, rfl⟩

namespace Session

/-- Opening the port at a rate. -/
inductive Opens (port : String) (baud : UInt32) : Except Halt Unit → Trace → Prop where
  | opened : Opens port baud (.ok ()) [.opened port baud (.ok ())]
  | failed (e : Error) :
    Opens port baud (.error (.failed (e.asPortError port))) [.opened port baud (.error e)]

/-- Closing the port if it is open. -/
inductive Closes (port : String) : Bool → Except Halt Unit → Trace → Prop where
  | already : Closes port false (.ok ()) []
  | closed : Closes port true (.ok ()) [.closed port (.ok ())]
  | failed (e : Error) : Closes port true (.error (.failed e)) [.closed port (.error e)]

/-- Switching the rate of the open port. -/
inductive Switches (baud : UInt32) : Except Halt Unit → Trace → Prop where
  | switched : Switches baud (.ok ()) [.switched baud (.ok ())]
  | failed (e : Error) : Switches baud (.error (.failed e)) [.switched baud (.error e)]

/-- Closing, settling and opening again. -/
inductive Reopens (port : String) (baud : UInt32) (wasOpen : Bool) :
    Except Halt Unit → Trace → Prop where
  | unclosed {e : Halt} {t : Trace} (closing : Closes port wasOpen (.error e) t) :
    Reopens port baud wasOpen (.error e) t
  | unopened {e : Halt} {t pause u : Trace} (closing : Closes port wasOpen (.ok ()) t)
    (settled : pause.Silent) (opening : Opens port baud (.error e) u) :
    Reopens port baud wasOpen (.error e) (t ++ (pause ++ u))
  | reopened {t pause u : Trace} (closing : Closes port wasOpen (.ok ()) t)
    (settled : pause.Silent) (opening : Opens port baud (.ok ()) u) :
    Reopens port baud wasOpen (.ok ()) (t ++ (pause ++ (u ++ [.noted (.reopened port baud)])))

theorem Opens.steady {port : String} {baud : UInt32} {r : Except Halt Unit} {t : Trace}
    (h : Opens port baud r t) : t.Steady baud := by
  cases h <;> exact ⟨by simp, by simp⟩

theorem Closes.steady {port : String} {wasOpen : Bool} {r : Except Halt Unit} {t : Trace}
    (h : Closes port wasOpen r t) (rate : UInt32) : t.Steady rate := by
  cases h <;> exact ⟨by simp, by simp⟩

variable {σ : Type} [SerialHost σ]

theorem onLine_ends {α : Type} {act : LineM σ α} {s : Session σ}
    {Q : Except Halt α → Trace → Session σ → Prop}
    (h : Ends act s.line fun r t l => Q r t { s with line := l }) :
    Ends (onLine act) s Q := Ends.part rfl (fun _ => rfl) h

/-- With the port open, an action on the line is only that. -/
theorem withPort_ends {α : Type} {act : LineM σ α} {s : Session σ} (ho : s.isOpen = true)
    {Q : Except Halt α → Trace → Session σ → Prop}
    (h : Ends act s.line fun r t l => Q r t { s with line := l }) :
    Ends (withPort act) s Q := by
  refine Ends.andThen (P := fun r t s' => r = .ok () ∧ t = [] ∧ s' = s) (Ends.read ?_) ?_ ?_
  · rw [if_pos ho]
    exact Ends.value ⟨rfl, rfl, rfl⟩
  · rintro _ _ _ ⟨-, rfl, rfl⟩
    exact onLine_ends h
  · rintro e _ _ ⟨hr, -⟩
    cases hr

theorem openAt_ends (baud : UInt32) (s : Session σ) :
    Ends (openAt baud) s fun r t s' => Opens s.port baud r t ∧ s'.port = s.port ∧
      (r = .ok () → s'.isOpen = true ∧ s'.baud = baud) ∧
      (∀ h, r = .error h → s'.isOpen = s.isOpen ∧ s'.baud = s.baud) := by
  have hcall : Ends (onLine (Line.openPort s.port baud)) s fun r t s' =>
      (∃ a, t = [.opened s.port baud a] ∧ r = a.mapError .failed) ∧
        s'.port = s.port ∧ s'.isOpen = s.isOpen ∧ s'.baud = s.baud :=
    onLine_ends ((openPort_ends s.port baud s.line).weaken fun _ _ _ h => ⟨h, rfl, rfl, rfl⟩)
  refine Ends.read (Ends.tried hcall ?_ ?_ ?_)
  · rintro _ _ s' ⟨⟨a | a, rfl, ha⟩, hport, -⟩
    · cases ha
    · refine ⟨.ok (), [], _, rfl, .refl _, ?_⟩
      exact ⟨.opened, hport, fun _ => ⟨rfl, rfl⟩, fun h hr => by cases hr⟩
  · rintro e _ s' ⟨⟨a | a, rfl, ha⟩, hport, hkept⟩
    · cases ha
      exact Ends.failed ⟨.failed e, hport, fun hr => (by cases hr), fun _ _ => hkept⟩
    · cases ha
  · rintro _ _ _ ⟨⟨a | a, -, ha⟩, -, -⟩ <;> cases ha

theorem close_ends (s : Session σ) :
    Ends close s fun r t s' =>
      Closes s.port s.isOpen r t ∧ s'.port = s.port ∧ s'.isOpen = false ∧ s'.baud = s.baud := by
  refine Ends.read ?_
  cases ho : s.isOpen with
  | false => exact Ends.value ⟨.already, rfl, ho, rfl⟩
  | true =>
    obtain ⟨r, t, l, he, hl, a, rfl, rfl⟩ := closePort_ends s.port s.line
    refine ⟨a.mapError .failed, _, ⟨l, s.port, false, s.baud⟩, ?_, hl, ?_, rfl, rfl, rfl⟩
    · have hrun : (onLine (Line.closePort s.port) : SessionM σ Unit) { s with isOpen := false } =
          outcome ⟨l, s.port, false, s.baud⟩ (a.mapError .failed) := by
        simp only [onLine, zoom, he]
        cases a <;> rfl
      exact hrun
    · cases a with
      | ok _ => exact .closed
      | error e => exact .failed e

theorem setBaud_ends (baud : UInt32) {s : Session σ} (ho : s.isOpen = true) :
    Ends (setBaud baud) s fun r t s' => Switches baud r t ∧ s'.port = s.port ∧
      s'.isOpen = true ∧ (r = .ok () → s'.baud = baud) ∧
      ∀ h, r = .error h → s'.baud = s.baud := by
  refine Ends.andThen (withPort_ends ho (Q := fun r t s' => Switches baud r t ∧
    s'.port = s.port ∧ s'.isOpen = true ∧ s'.baud = s.baud)
    ((SspUpdate.setBaud_ends baud s.line).weaken ?_)) ?_ ?_
  · rintro _ _ l ⟨a, rfl, rfl⟩
    cases a with
    | ok _ => exact ⟨.switched, rfl, ho, rfl⟩
    | error e => exact ⟨.failed e, rfl, ho, rfl⟩
  · rintro _ t s' ⟨ht, hport, hopen, -⟩
    refine ⟨.ok (), [], _, rfl, .refl _, ?_, hport, hopen, fun _ => rfl, fun h hr => by cases hr⟩
    rw [List.append_nil]
    exact ht
  · rintro h t s' ⟨ht, hport, hopen, hbaud⟩
    exact ⟨ht, hport, hopen, fun hr => (by cases hr), fun _ _ => hbaud⟩

/-- What is done between closing a port and opening it again. -/
def pause (ms : Nat) (port : String) : Trace :=
  if 0 < ms then [.noted (.settling ms port), .slept ms] else []

theorem pause_silent (ms : Nat) (port : String) : (pause ms port).Silent := by
  unfold pause
  split
  · exact (Trace.Silent.note _).append (.sleep ms)
  · exact .nil

/-- A pause before an action. -/
theorem settled {α : Type} (ms : Nat) (port : String) {act : SessionM σ α} {s : Session σ}
    {Q : Except Halt α → Trace → Session σ → Prop}
    (h : ∀ l, Ends act { s with line := l } fun r t s' => Q r (pause ms port ++ t) s') :
    Ends (if 0 < ms then (do note (.settling ms port); onLine (Line.sleep ms); act) else act) s
      Q := by
  unfold pause at h
  split
  · next hms =>
    rw [if_pos hms] at h
    refine Ends.andThen (onLine_ends (Q := fun r t s' => r = .ok () ∧
      t = [.noted (.settling ms port)] ∧ ∃ l, s' = { s with line := l })
      (note_ends ⟨rfl, rfl, _, rfl⟩)) ?_ ?_
    · rintro _ _ _ ⟨-, rfl, l, rfl⟩
      refine Ends.andThen (onLine_ends (Q := fun r t s' => r = .ok () ∧ t = [.slept ms] ∧
        ∃ l, s' = { s with line := l }) ((sleep_ends ms l).weaken ?_)) ?_ ?_
      · rintro _ _ l' ⟨rfl, rfl⟩
        exact ⟨rfl, rfl, l', rfl⟩
      · rintro _ _ _ ⟨-, rfl, l', rfl⟩
        exact h l'
      · rintro e _ _ ⟨hr, -⟩
        cases hr
    · rintro e _ _ ⟨hr, -⟩
      cases hr
  · next hms =>
    rw [if_neg hms] at h
    exact h s.line

/-- The calls of a reopening: the port is opened if it could be closed. -/
theorem reopen_calls (baud : UInt32) (ms : Nat) (s : Session σ) :
    Ends (reopen baud ms) s fun r t s' => s'.port = s.port ∧
      ((∃ h, r = .error h ∧ Closes s.port s.isOpen r t ∧ s'.isOpen = false ∧ s'.baud = s.baud) ∨
        ∃ closing opening, Closes s.port s.isOpen (.ok ()) closing ∧ Opens s.port baud r opening ∧
          t = closing ++ (pause ms s.port ++
            (opening ++ if r.toBool then [.noted (.reopened s.port baud)] else [])) ∧
          s'.isOpen = r.toBool ∧ s'.baud = if r.toBool then baud else s.baud) := by
  refine Ends.andThen (close_ends s) ?_ ?_
  · rintro _ t s₁ ⟨hc, hport, hopen, hbaud⟩
    refine Ends.read ?_
    rw [hport]
    refine settled ms s.port fun l => ?_
    refine Ends.andThen (openAt_ends baud { s₁ with line := l }) ?_ ?_
    · rintro _ u s₂ ⟨ho, hport₂, hopen₂, -⟩
      rw [hport] at ho
      obtain ⟨hisOpen, hrate⟩ := hopen₂ rfl
      exact onLine_ends (note_ends ⟨hport₂.trans hport, .inr ⟨t, u, hc, ho, rfl, hisOpen, hrate⟩⟩)
    · rintro e u s₂ ⟨ho, hport₂, -, hkept⟩
      rw [hport] at ho
      obtain ⟨hopen₂, hbaud₂⟩ := hkept e rfl
      refine ⟨hport₂.trans hport, .inr ⟨t, u, hc, ho, ?_, hopen₂.trans hopen, hbaud₂.trans hbaud⟩⟩
      rw [Except.toBool, if_neg Bool.false_ne_true, List.append_nil]
  · rintro e t s₁ ⟨hc, hport, hkept⟩
    exact ⟨hport, .inl ⟨e, rfl, hc, hkept⟩⟩

theorem reopen_ends (baud : UInt32) (ms : Nat) (s : Session σ) :
    Ends (reopen baud ms) s fun r t s' => Reopens s.port baud s.isOpen r t ∧ s'.port = s.port ∧
      (r = .ok () → s'.isOpen = true ∧ s'.baud = baud) ∧
      (∀ h, r = .error h → s'.isOpen = false ∧ s'.baud = s.baud) := by
  refine (reopen_calls baud ms s).weaken ?_
  rintro r t s' ⟨hport, ⟨e, rfl, hc, hkept⟩ | ⟨closing, opening, hc, ho, rfl, hopen, hbaud⟩⟩
  · exact ⟨.unclosed hc, hport, nofun, fun _ _ => hkept⟩
  · cases r with
    | ok _ =>
      exact ⟨.reopened hc (pause_silent ms s.port) ho, hport, fun _ => ⟨hopen, hbaud⟩, nofun⟩
    | error e =>
      rw [Except.toBool, if_neg Bool.false_ne_true, List.append_nil]
      exact ⟨.unopened hc (pause_silent ms s.port) ho, hport, nofun, fun _ _ => ⟨hopen, hbaud⟩⟩

end Session

namespace Run

variable {σ κ : Type} [SerialHost σ]

theorem onSession_ends {α : Type} {act : SessionM σ α} {run : Run σ κ}
    {Q : Except Halt α → Trace → Run σ κ → Prop}
    (h : Ends act run.session fun r t s => Q r t { run with session := s }) :
    Ends (onSession act) run Q := Ends.part rfl (fun _ => rfl) h

theorem onLine_ends {α : Type} {act : LineM σ α} {run : Run σ κ}
    {Q : Except Halt α → Trace → Run σ κ → Prop}
    (h : Ends act run.session.line fun r t l =>
      Q r t { run with session := { run.session with line := l } }) :
    Ends (onLine act) run Q := onSession_ends (Session.onLine_ends h)

/-- With the port open, an exchange is only that. -/
theorem onLink_ends {α : Type} {act : LinkM σ κ α} {run : Run σ κ}
    (ho : run.session.isOpen = true) {Q : Except Halt α → Trace → Run σ κ → Prop}
    (h : Ends act run.link fun r t link => Q r t (putLink link run)) :
    Ends (onLink act) run Q := by
  refine Ends.andThen (P := fun r t run' => r = .ok () ∧ t = [] ∧ run' = run)
    (onSession_ends (Ends.read ?_)) ?_ ?_
  · rw [if_pos ho]
    exact Ends.value ⟨rfl, rfl, rfl⟩
  · rintro _ _ _ ⟨-, rfl, rfl⟩
    exact Ends.part rfl (fun _ => rfl) h
  · rintro e _ _ ⟨hr, -⟩
    cases hr

end Run

end SspUpdate
