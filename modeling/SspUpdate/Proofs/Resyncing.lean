import SspUpdate.Proofs.Conversation
import SspUpdate.Proofs.SessionCalls
import SspUpdate.Update.Resync

/-!
# How a resynchronisation ends

The rounds are followed over every host and channel. Between two rounds the
port is either closed, or open since an opening at the command rate that was
followed by traffic only. So when a round succeeds, the accepted
synchronisation went over such a port; and when the wait ends otherwise, some
call or some synchronisation before it went wrong.
-/

namespace SspUpdate

/-- Only the line of a run moved on, and is as patient as before. -/
structure Run.OnlyLine {σ κ : Type} (run run' : Run σ κ) : Prop where
  name : run'.session.port = run.session.port
  isOpen : run'.session.isOpen = run.session.isOpen
  channel : run'.channel = run.channel
  command : run'.command = run.command
  patience : run'.session.line.patience = run.session.line.patience

theorem Run.OnlyLine.refl {σ κ : Type} (run : Run σ κ) : run.OnlyLine run :=
  ⟨rfl, rfl, rfl, rfl, rfl⟩

theorem Run.OnlyLine.trans {σ κ : Type} {run run' run'' : Run σ κ} (h : run.OnlyLine run')
    (h' : run'.OnlyLine run'') : run.OnlyLine run'' where
  name := h'.name.trans h.name
  isOpen := h'.isOpen.trans h.isOpen
  channel := h'.channel.trans h.channel
  command := h'.command.trans h.command
  patience := h'.patience.trans h.patience

section Notes

variable {σ κ α : Type} [SerialHost σ]

theorem run_note_ends {n : Note} {run : Run σ κ} {Q : Except Halt Unit → Trace → Run σ κ → Prop}
    (h : ∀ run', run.OnlyLine run' → Q (.ok ()) [.noted n] run') : Ends (Run.note n) run Q :=
  Run.onLine_ends (note_ends (h _ ⟨rfl, rfl, rfl, rfl, rfl⟩))

/-- An action on the line that always succeeds, with one entry in front of what follows. -/
theorem run_recorded {β : Type} {act : LineM σ β} (entry : β → Entry)
    (hact : ∀ l, Ends act l fun r t _ => ∃ b, r = .ok b ∧ t = [entry b])
    {k : β → RunM σ κ α} {run : Run σ κ} {Q : Except Halt α → Trace → Run σ κ → Prop}
    (h : ∀ b run', run.OnlyLine run' → Ends (k b) run' fun r t run'' => Q r (entry b :: t) run'') :
    Ends (Run.onLine act >>= k) run Q := by
  refine Ends.andThen (P := fun r t run' => ∃ b, r = .ok b ∧ t = [entry b] ∧ run.OnlyLine run')
    (Run.onLine_ends ((hact run.session.line).patient.weaken ?_)) ?_ ?_
  · rintro _ _ l ⟨⟨b, rfl, rfl⟩, hl⟩
    exact ⟨b, rfl, rfl, rfl, rfl, rfl, rfl, hl⟩
  · rintro b _ run' ⟨_, ⟨⟩, rfl, hrun⟩
    exact h b run' hrun
  · rintro _ _ _ ⟨_, hr, -⟩
    cases hr

theorem run_noted {n : Note} {k : Unit → RunM σ κ α} {run : Run σ κ}
    {Q : Except Halt α → Trace → Run σ κ → Prop}
    (h : ∀ run', run.OnlyLine run' → Ends (k ()) run' fun r t run'' => Q r (.noted n :: t) run'') :
    Ends (Run.note n >>= k) run Q :=
  run_recorded (fun _ => .noted n) (fun _ => note_ends ⟨(), rfl, rfl⟩) fun _ => h

theorem run_slept {ms : Nat} {k : Unit → RunM σ κ α} {run : Run σ κ}
    {Q : Except Halt α → Trace → Run σ κ → Prop}
    (h : ∀ run', run.OnlyLine run' → Ends (k ()) run' fun r t run'' => Q r (.slept ms :: t) run'') :
    Ends (Run.onLine (Line.sleep ms) >>= k) run Q :=
  run_recorded (fun _ => .slept ms)
    (fun l => (sleep_ends ms l).weaken fun _ _ _ hr => ⟨(), hr⟩) fun _ => h

theorem run_clocked {k : Nat → RunM σ κ α} {run : Run σ κ}
    {Q : Except Halt α → Trace → Run σ κ → Prop} (h : ∀ now, Ends (k now) run Q) :
    Ends (Run.onLine Line.clock >>= k) run Q := h (SerialHost.clock run.session.line.host)

end Notes

namespace Resync

/-- A call to the port or a synchronisation went wrong. -/
def Troubled (sync : Except Halt Status → Trace → Prop) (t : Trace) : Prop :=
  (∃ e ∈ t, e.Fails) ∨ ∃ r u, sync r u ∧ r ≠ .ok .ok

/-- Apart from its synchronisations a wait keeps to the command rate and moves no byte. -/
inductive Waits (sync : Except Halt Status → Trace → Prop) : Trace → Prop where
  | nil : Waits sync []
  | exchange {r : Except Halt Status} {u t : Trace} (h : sync r u) (rest : Waits sync t) :
    Waits sync (u ++ t)
  | call {e : Entry} {t : Trace} (sent : e.sent = []) (heard : e.heard? = none)
    (steady : Trace.Steady commandBaud [e]) (rest : Waits sync t) : Waits sync (e :: t)

/-- The port was opened at the command rate, and only traffic followed. -/
def Held (port : String) (t : Trace) : Prop :=
  ∃ before mid : Trace, t = before ++ .opened port commandBaud (.ok ()) :: mid ∧ mid.Traffic

/-- The last thing that happened was an accepted synchronisation over a held port. -/
def Returned (port : String) (sync : Except Halt Status → Trace → Prop) (t : Trace) : Prop :=
  ∃ before exch n, t = before ++ (exch ++ [.noted (.resynced n)]) ∧ Held port before ∧
    sync (.ok .ok) exch

/-- What is known between two rounds. -/
structure Awaits {σ κ : Type} [SerialHost σ] [CommandChannel σ κ] {image : Image}
    (c : Conversation σ κ image) (port : String) (t : Trace) (run : Run σ κ) : Prop where
  name : run.session.port = port
  ready : c.Ready run.channel run.command
  waits : Waits c.sync t
  held : run.session.isOpen = true → Held port t

/-- What is known after a round, over the whole trace up to its end. -/
def AfterRound {σ κ : Type} [SerialHost σ] [CommandChannel σ κ] {image : Image}
    (c : Conversation σ κ image) (port : String) :
    Except Halt Bool → Trace → Run σ κ → Prop
  | .ok true, t, _ => Waits c.sync t ∧ Returned port c.sync t
  | .ok false, t, run => Awaits c port t run ∧ Troubled c.sync t
  | .error h, t, _ => Waits c.sync t ∧ Troubled c.sync t ∧
      ∀ e, h = .failed e → Entry.closed port (.error e) ∈ t

/-- How the rounds can go, over the whole trace up to their end. -/
structure Rounds (port : String) (sync : Except Halt Status → Trace → Prop) (patience : Nat)
    (r : Except Halt Unit) (t : Trace) : Prop where
  waits : Waits sync t
  returned : r = .ok () → Returned port sync t
  troubled : ∀ h, r = .error h → patience = 0 ∨ Troubled sync t
  blame : ∀ e, r = .error (.failed e) → e = .resyncInterrupted ∨ (∃ s, e = .noResync s) ∨
    Entry.closed port (.error e) ∈ t

/-- How the whole wait can go: the port is closed first. -/
structure Resyncs (port : String) (sync : Except Halt Status → Trace → Prop) (patience : Nat)
    (r : Except Halt Unit) (t : Trace) : Prop extends Rounds port sync patience r t where
  closes : ∃ answer rest, t = .closed port answer :: rest

theorem Troubled.left {sync : Except Halt Status → Trace → Prop} {t : Trace}
    (h : Troubled sync t) (u : Trace) : Troubled sync (t ++ u) := by
  obtain ⟨e, he, hf⟩ | h := h
  · exact .inl ⟨e, List.mem_append_left u he, hf⟩
  · exact .inr h

namespace Waits

variable {sync : Except Halt Status → Trace → Prop} {t u : Trace}

theorem append (h : Waits sync t) (h' : Waits sync u) : Waits sync (t ++ u) := by
  induction h with
  | nil => exact h'
  | exchange h _ ih =>
    rw [List.append_assoc]
    exact .exchange h ih
  | call sent heard steady _ ih => exact .call sent heard steady ih

theorem one {r : Except Halt Status} (h : sync r t) : Waits sync t := by
  have hw : Waits sync (t ++ []) := .exchange h .nil
  rwa [List.append_nil] at hw

/-- A synchronisation is all that moves bytes. -/
theorem silent (h : Waits sync t) (hsync : ∀ r u, sync r u → u.sent = [] ∧ u.heard = []) :
    t.sent = [] ∧ t.heard = [] := by
  induction h with
  | nil => exact ⟨rfl, rfl⟩
  | exchange h _ ih => simp [hsync _ _ h, ih]
  | call sent heard _ _ ih => simp [sent, heard, ih]

theorem steady (h : Waits sync t) (hsync : ∀ r u, sync r u → u.Traffic) :
    t.Steady commandBaud := by
  induction h with
  | nil => exact Trace.traffic_nil.steady _
  | exchange h _ ih => exact ((hsync _ _ h).steady _).append ih
  | call _ _ steady _ ih => exact steady.append ih

theorem of_silent (h : t.Silent) : Waits sync t := by
  induction t with
  | nil => exact .nil
  | cons e t ih =>
    obtain ⟨htraffic, hsent, hheard⟩ := h
    rw [Trace.traffic_cons] at htraffic
    rw [Trace.sent_cons, List.append_eq_nil_iff] at hsent
    rw [Trace.heard_cons, List.append_eq_nil_iff, Option.toList_eq_nil_iff] at hheard
    have he : Trace.Traffic [e] := by simpa using htraffic.1
    exact .call hsent.1 hheard.1 (he.steady _) (ih ⟨htraffic.2, hsent.2, hheard.2⟩)

theorem of_opens {port : String} {r : Except Halt Unit} (h : Session.Opens port commandBaud r t) :
    Waits sync t := by
  have hsteady := h.steady
  cases h <;> exact .call rfl rfl hsteady .nil

theorem of_closes {port : String} {wasOpen : Bool} {r : Except Halt Unit}
    (h : Session.Closes port wasOpen r t) : Waits sync t := by
  have hsteady := h.steady commandBaud
  cases h with
  | already => exact .nil
  | closed => exact .call rfl rfl hsteady .nil
  | failed e => exact .call rfl rfl hsteady .nil

theorem of_reopens {port : String} {wasOpen : Bool} {r : Except Halt Unit}
    (h : Session.Reopens port commandBaud wasOpen r t) : Waits sync t := by
  cases h with
  | unclosed closing => exact of_closes closing
  | unopened closing settled opening =>
    exact (of_closes closing).append ((of_silent settled).append (of_opens opening))
  | reopened closing settled opening =>
    exact (of_closes closing).append ((of_silent settled).append
      ((of_opens opening).append (of_silent (.note _))))

end Waits

theorem Held.append {port : String} {t u : Trace} (h : Held port t) (hu : u.Traffic) :
    Held port (t ++ u) := by
  obtain ⟨before, mid, rfl, hmid⟩ := h
  exact ⟨before, mid ++ u, by simp, hmid.append hu⟩

/-- The question whether to stop is asked once; a limit of zero has always passed. -/
theorem checkLimits_ends {σ κ : Type} [SerialHost σ] (timing : Timing) (start : Nat)
    (run : Run σ κ) :
    Ends (checkLimits timing start) run fun r t run' => ∃ stop, t = [.stopAsked stop] ∧
      run.OnlyLine run' ∧
      ((r = .error (.failed .resyncInterrupted) ∧ stop = true) ∨
        (r = .ok () ∧ stop = false ∧ timing.resyncLimit ≠ some 0) ∨
        (stop = false ∧ ∃ limit, timing.resyncLimit = some limit ∧
          r = .error (.failed (.noResync (limit / 1000))))) := by
  refine run_recorded .stopAsked stopRequested_ends fun stop run' hrun => ?_
  cases stop with
  | true => exact Ends.failed ⟨true, rfl, hrun, .inl ⟨rfl, rfl⟩⟩
  | false =>
    rcases hlimit : timing.resyncLimit with _ | limit
    · exact Ends.value ⟨false, rfl, hrun, .inr (.inl ⟨rfl, rfl, nofun⟩)⟩
    · refine run_clocked fun now => ?_
      dsimp only
      split
      · exact Ends.failed ⟨false, rfl, hrun, .inr (.inr ⟨rfl, limit, rfl, rfl⟩)⟩
      · next hearly =>
        refine Ends.value ⟨false, rfl, hrun, .inr (.inl ⟨rfl, rfl, ?_⟩)⟩
        rintro ⟨⟩
        exact hearly (Nat.zero_le _)

section Waiting

variable {σ κ : Type} [SerialHost σ] [CommandChannel σ κ] {image : Image}
  {c : Conversation σ κ image} {port : String} {t₀ : Trace} {run : Run σ κ}

/-- Silence on the line changes nothing of what is known. -/
theorem Awaits.kept {run' : Run σ κ} {t : Trace} (h : Awaits c port t₀ run) (ht : t.Silent)
    (hrun : run.OnlyLine run') : Awaits c port (t₀ ++ t) run' := by
  refine ⟨hrun.name.trans h.name, ?_, h.waits.append (.of_silent ht), fun ho => ?_⟩
  · rw [hrun.channel, hrun.command]
    exact h.ready
  · exact (h.held (hrun.isOpen ▸ ho)).append ht.traffic

/-- After the opening the port is open, or something went wrong. -/
theorem ensureOpen_ends (h : Awaits c port t₀ run) :
    Ends ensureOpen run fun r t run' => r = .ok () ∧ Awaits c port (t₀ ++ t) run' ∧
      (run'.session.isOpen = true ∨ ∃ e ∈ t, e.Fails) := by
  refine Ends.read ?_
  split
  · next ho => exact Ends.value ⟨rfl, (List.append_nil t₀).symm ▸ h, .inl ho⟩
  · next hclosed =>
    have hreopen : Ends (Run.onSession (Session.reopen commandBaud 0)) run fun r t run' =>
        Session.Reopens port commandBaud false r t ∧ run'.session.port = port ∧
          (r = .ok () → run'.session.isOpen = true) ∧
          (∀ h, r = .error h → run'.session.isOpen = false) ∧
            c.Ready run'.channel run'.command := by
      refine Run.onSession_ends ((Session.reopen_ends commandBaud 0 run.session).weaken ?_)
      rintro r t s ⟨hr, hport, hok, herr⟩
      rw [h.name, Bool.eq_false_iff.mpr hclosed] at hr
      exact ⟨hr, hport.trans h.name, fun ha => (hok ha).1, fun e he => (herr e he).1, h.ready⟩
    refine Ends.tried hreopen ?_ ?_ ?_
    · rintro _ t run' ⟨hr, hport, hopen, -, hready⟩
      have hheld : Held port (t₀ ++ t) := by
        cases hr with
        | reopened closing settled opening =>
          cases closing
          cases opening
          next pause => exact ⟨t₀ ++ pause, [.noted (.reopened port commandBaud)], by simp,
            by simp [Entry.IsControl]⟩
      refine Ends.value ?_
      rw [List.append_nil]
      exact ⟨rfl, ⟨hport, hready, h.waits.append (.of_reopens hr), fun _ => hheld⟩,
        .inl (hopen rfl)⟩
    · rintro e t run' ⟨hr, hport, -, hclosed, hready⟩
      have hfails : ∃ x ∈ t, x.Fails := by
        cases hr with
        | unclosed closing => cases closing
        | unopened closing settled opening =>
          cases opening
          next e => exact ⟨_, by simp, .opening port commandBaud e⟩
      have hawaits : Awaits c port (t₀ ++ t) run' :=
        ⟨hport, hready, h.waits.append (.of_reopens hr), fun ho => by simp [hclosed _ rfl] at ho⟩
      refine run_note_ends fun run₂ hrun => ⟨rfl, ?_, .inr ?_⟩
      · have hkept := hawaits.kept (.note (.resyncFailed e)) hrun
        rwa [List.append_assoc] at hkept
      · obtain ⟨x, hx, hf⟩ := hfails
        exact ⟨x, List.mem_append_left _ hx, hf⟩
    · rintro _ t run' ⟨hr, -⟩
      cases hr with
      | unclosed closing => cases closing
      | unopened closing settled opening => cases opening

/-- A port that failed is dropped, so the next round opens it anew. -/
theorem drop_ends (h : Awaits c port t₀ run) (htroubled : Troubled c.sync t₀) :
    Ends (Run.onSession Session.close >>= fun _ => (pure false : RunM σ κ Bool)) run
      fun r t run' => AfterRound c port r (t₀ ++ t) run' := by
  have hclose : Ends (Run.onSession Session.close) run fun r t run' =>
      (∃ wasOpen, Session.Closes port wasOpen r t) ∧ run'.session.port = port ∧
        run'.session.isOpen = false ∧ c.Ready run'.channel run'.command := by
    refine Run.onSession_ends ((Session.close_ends run.session).weaken ?_)
    rintro r t s ⟨hc, hport, hopen, -⟩
    rw [h.name] at hc hport
    exact ⟨⟨_, hc⟩, hport, hopen, h.ready⟩
  refine Ends.andThen hclose ?_ ?_
  · rintro _ t run' ⟨⟨_, hc⟩, hport, hopen, hready⟩
    refine Ends.value ?_
    rw [List.append_nil]
    exact ⟨⟨hport, hready, h.waits.append (.of_closes hc), fun ho => by simp [hopen] at ho⟩,
      htroubled.left t⟩
  · rintro e t run' ⟨⟨_, hc⟩, -⟩
    refine ⟨h.waits.append (.of_closes hc), htroubled.left t, ?_⟩
    rintro e' rfl
    cases hc
    simp

/-- One synchronisation over the open port. -/
theorem trySync_ends (number : Nat) (h : Awaits c port t₀ run) (ho : run.session.isOpen = true) :
    Ends (trySync number) run fun r t run' => AfterRound c port r (t₀ ++ t) run' := by
  have hsync : Ends (Run.onLink CommandChannel.sync) run fun r t run' =>
      c.sync r t ∧ Awaits c port (t₀ ++ t) run' := by
    refine Run.onLink_ends ho ((c.sync_ends run.link h.ready).weaken ?_)
    rintro r t link ⟨hs, hready, -⟩
    have ht := c.sync_traffic r t hs
    exact ⟨hs, h.name, hready, h.waits.append (.one hs), fun ho => (h.held ho).append ht⟩
  refine Ends.tried hsync ?_ ?_ ?_
  · rintro status t run₁ ⟨hs, ha⟩
    dsimp only
    split
    · next hok =>
      refine run_noted fun run₂ hrun => Ends.value ?_
      rw [Status.isOk_iff.mp hok] at hs
      rw [← List.append_assoc]
      have hawaits := ha.kept (.note (.resynced number)) hrun
      refine ⟨hawaits.waits, t₀, t, number, List.append_assoc .., h.held ho, hs⟩
    · next hno =>
      refine run_noted fun run₂ hrun => Ends.value ?_
      rw [← List.append_assoc]
      refine ⟨ha.kept (.note _) hrun, .inr ⟨_, t, hs, fun heq => hno ?_⟩⟩
      cases heq
      rfl
  · rintro e t run₁ ⟨hs, ha⟩
    have htroubled : Troubled c.sync (t₀ ++ t) := .inr ⟨_, t, hs, fun hr => by cases hr⟩
    refine run_noted fun run₂ hrun => ?_
    have ha₂ := ha.kept (.note (.resyncFailed e)) hrun
    split
    · refine (drop_ends ha₂ (htroubled.left _)).weaken fun r u _ hr => ?_
      simpa only [List.append_assoc, List.cons_append, List.nil_append] using hr
    · refine Ends.value ?_
      rw [← List.append_assoc]
      exact ⟨ha₂, htroubled.left _⟩
  · rintro _ t run₁ ⟨hs, ha⟩
    exact ⟨ha.waits, .inr ⟨_, t, hs, fun hr => by cases hr⟩, fun e he => by cases he⟩

theorem round_ends (number : Nat) (h : Awaits c port t₀ run) :
    Ends (round number) run fun r t run' => AfterRound c port r (t₀ ++ t) run' := by
  refine Ends.andThen (ensureOpen_ends h) ?_ ?_
  · rintro _ t run' ⟨-, ha, hopen⟩
    refine Ends.read ?_
    split
    · next ho =>
      exact (trySync_ends number ha ho).weaken fun r u _ hr => List.append_assoc t₀ t u ▸ hr
    · next hclosed =>
      obtain ⟨e, he, hf⟩ := hopen.resolve_left hclosed
      refine Ends.value ?_
      rw [List.append_nil]
      exact ⟨ha, .inl ⟨e, List.mem_append_right t₀ he, hf⟩⟩
  · rintro e t run' ⟨hr, -⟩
    cases hr

/-- The rounds of a wait, by induction on those left: what is known of the run between two rounds
is known after each. -/
theorem loop_rounds (timing : Timing) (start patience rounds : Nat) (h : Awaits c port t₀ run)
    (hbefore : rounds = 0 ∨ Troubled c.sync t₀) :
    Ends (loop timing start patience rounds) run fun r t _ =>
      Rounds port c.sync patience r (t₀ ++ t) := by
  induction patience generalizing rounds t₀ run with
  | zero =>
    refine Ends.thrown ⟨?_, fun hr => (by cases hr), fun _ _ => .inl rfl, fun e hr => by cases hr⟩
    rw [List.append_nil]
    exact h.waits
  | succ patience ih =>
    rcases hnumber : nextNumber rounds with _ | number
    · refine Ends.overflows hnumber ?_
      rw [List.append_nil]
      refine ⟨h.waits, fun hr => (by cases hr), fun _ _ => .inr (hbefore.resolve_left ?_),
        fun e hr => by cases hr⟩
      rintro rfl
      cases hnumber
    refine Ends.fits hnumber (Ends.andThen (round_ends number h) ?_ ?_)
    · rintro (_ | _) t run₁ hround
      · obtain ⟨ha, htr⟩ := hround
        refine Ends.andThen (checkLimits_ends timing start run₁) ?_ ?_
        · rintro _ _ run₂ ⟨stop, rfl, hrun, -⟩
          refine run_slept fun run₃ hrun₃ => ?_
          have ha₂ := ha.kept (.stopAsked stop) hrun
          have hloop := ih number (ha₂.kept (.sleep timing.resyncInterval) hrun₃)
            (.inr ((htr.left _).left _))
          refine hloop.weaken fun r w _ hw => ?_
          simp only [List.append_assoc, List.cons_append, List.nil_append] at hw ⊢
          refine ⟨hw.waits, hw.returned, fun h hr => .inr ?_, hw.blame⟩
          rw [← List.append_assoc]
          exact htr.left _
        · rintro e _ run₂ ⟨stop, rfl, hrun, herr⟩
          have ha₂ := ha.kept (.stopAsked stop) hrun
          rw [← List.append_assoc]
          refine ⟨ha₂.waits, fun hr => (by cases hr), fun _ _ => .inr (htr.left _), fun e' hr => ?_⟩
          cases hr
          obtain ⟨⟨⟩, -⟩ | ⟨⟨⟩, -⟩ | ⟨-, limit, -, ⟨⟩⟩ := herr
          · exact .inl rfl
          · exact .inr (.inl ⟨limit / 1000, rfl⟩)
      · obtain ⟨hwaits, hreturned⟩ := hround
        refine Ends.value ?_
        rw [List.append_nil]
        exact ⟨hwaits, fun _ => hreturned, fun h hr => (by cases hr), fun e hr => by cases hr⟩
    · rintro e t run₁ ⟨hwaits, htr, hblame⟩
      refine ⟨hwaits, fun hr => (by cases hr), fun _ _ => .inr htr, fun e' hr => ?_⟩
      cases hr
      exact .inr (.inr (hblame e' rfl))

/-- The wait for the device, from an open port. -/
theorem run_resyncs (timing : Timing) (run : Run σ κ) (hname : run.session.port = port)
    (hopen : run.session.isOpen = true) (hready : c.Ready run.channel run.command) :
    Ends (Resync.run timing) run fun r t _ =>
      Resyncs port c.sync run.session.line.patience r t := by
  have hclose : Ends (Run.onSession Session.close) run fun r t run₁ =>
      Session.Closes port true r t ∧ run₁.session.port = port ∧ run₁.session.isOpen = false ∧
        c.Ready run₁.channel run₁.command ∧
        run₁.session.line.patience = run.session.line.patience := by
    refine Run.onSession_ends ((Session.close_ends run.session).patient.weaken ?_)
    rintro r t s ⟨⟨hc, hport, hclosed, -⟩, hpatience⟩
    rw [hname, hopen] at hc
    exact ⟨hc, hport.trans hname, hclosed, hready, hpatience⟩
  refine Ends.andThen hclose ?_ ?_
  · rintro _ t run₁ ⟨hc, hport, hclosed, hready₁, hpatience⟩
    have ha : Awaits c port t run₁ :=
      ⟨hport, hready₁, .of_closes hc, fun ho => by simp [hclosed] at ho⟩
    rw [← hpatience]
    refine run_clocked fun now => Ends.read ((loop_rounds timing now _ 0 ha (.inl rfl)).weaken ?_)
    intro r u _ hrounds
    cases hc
    exact ⟨hrounds, _, u, rfl⟩
  · rintro e t run₁ ⟨hc, -⟩
    cases hc with
    | failed e =>
      refine ⟨⟨.of_closes (.failed e), nofun, fun _ _ => .inr (.inl ?_), fun e' hr => ?_⟩, _, [],
        rfl⟩
      · exact ⟨_, List.mem_singleton_self _, .closing port e⟩
      · cases hr
        exact .inr (.inr (List.mem_singleton_self _))

end Waiting

end Resync

end SspUpdate
