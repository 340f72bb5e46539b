import SspUpdate.Proofs.Course
import SspUpdate.Proofs.Laws
import SspUpdate.Proofs.Ownership

/-!
# Plain calls

Most of what an update does is plain: it leaves the port with its owner and
makes no report. The calls on a line are, but for opening, closing and
reporting; and so are the steps of a transfer between two reports and the
exchanges of the packet channel. What plain calls uphold is upheld by an update
wherever it waits for its device, if closing and reopening the port uphold it.
-/

namespace SspUpdate

/-- The progress that an entry reports. -/
def Entry.progress? : Entry → Option Progress
  | .progressed p => some p
  | _ => none

namespace Trace

/-- All reports of progress, in order. -/
def reports (t : Trace) : List Progress := t.filterMap Entry.progress?

@[simp] theorem reports_nil : reports [] = [] := rfl

@[simp] theorem reports_append (t u : Trace) : reports (t ++ u) = reports t ++ reports u :=
  List.filterMap_append

@[simp] theorem reports_cons (e : Entry) (t : Trace) :
    reports (e :: t) = e.progress?.toList ++ reports t := by
  cases h : e.progress? <;> simp [reports, h]

/-- The port stays with its owner, and nothing is reported. -/
structure Plain (t : Trace) : Prop where
  stays : t.Stays
  unreported : t.reports = []

theorem Plain.nil : Plain [] := ⟨.nil, rfl⟩

theorem Plain.append {t u : Trace} (h : t.Plain) (h' : u.Plain) : Plain (t ++ u) :=
  ⟨h.stays.append h'.stays, by rw [reports_append, h.unreported, h'.unreported]; rfl⟩

theorem Plain.single {e : Entry} (h : ¬ e.IsHandover) (h' : e.progress? = none) :
    Plain [e] := by
  refine ⟨?_, ?_⟩
  · simpa only [Stays, List.forall_mem_singleton] using h
  · rw [reports_cons, h']
    rfl

end Trace

section Actions

variable {s σ α : Type} [SerialHost σ] [HasLine s σ]

/-- The action makes no report. -/
def Tacit (act : EStateM Halt s α) : Prop := Obeys (fun _ t _ => t.reports = []) act

/-- The action leaves the port with its owner. -/
def Keeps (act : EStateM Halt s α) : Prop := Obeys (fun _ t _ => t.Stays) act

/-- The action does both. -/
def Plain (act : EStateM Halt s α) : Prop := Obeys (fun _ t _ => t.Plain) act

theorem Plain.tacit {act : EStateM Halt s α} (h : Plain act) : Tacit act :=
  Obeys.weaken h fun ht => ht.unreported

theorem Plain.keeps {act : EStateM Halt s α} (h : Plain act) : Keeps act :=
  Obeys.weaken h fun ht => ht.stays

end Actions

theorem tacit_law {s : Type} : Law fun (_ : s) t _ => Trace.reports t = [] where
  nothing _ := rfl
  append h h' := by rw [Trace.reports_append, h, h', List.append_nil]

theorem stays_law {s : Type} : Law fun (_ : s) t _ => Trace.Stays t where
  nothing _ := .nil
  append h h' := h.append h'

theorem plain_law {s : Type} : Law fun (_ : s) t _ => Trace.Plain t where
  nothing _ := .nil
  append h h' := h.append h'

section Lines

variable {σ α : Type} [SerialHost σ]

/-- A question that neither hands the port over nor reports. -/
theorem ask_plain {question : σ → α × σ} {entry : α → Entry}
    (hm : ∀ patience s a s', question s = (a, s') → (entry a).Moves patience s s')
    (hstays : ∀ a, ¬ (entry a).IsHandover) (htacit : ∀ a, (entry a).progress? = none) :
    Plain (Line.ask question entry) :=
  fun l => ask_ends (hm l.patience l.host) fun a _ => .single (hstays a) (htacit a)

theorem note_plain (n : Note) : Plain (Line.note n : LineM σ Unit) :=
  fun _ => note_ends (.single id rfl)

/-- A note that may be left out. -/
theorem maybe_note_plain {c : Prop} [Decidable c] {n : Note} {act : LineM σ α} (h : Plain act) :
    Plain (if c then (do Line.note n; act) else act) := by
  split
  · exact plain_law.andThen (note_plain n) fun _ => h
  · exact h

theorem setBaud_plain (baud : UInt32) : Plain (Line.setBaud baud : LineM σ Unit) :=
  plain_law.andThen (ask_plain (fun _ _ _ _ h => h) (fun _ => id) fun _ => rfl) fun _ =>
    plain_law.result _

theorem sleep_plain (ms : Nat) : Plain (Line.sleep ms : LineM σ Unit) :=
  plain_law.andThen
    (ask_plain (fun _ _ _ _ h => congrArg Prod.snd h) (fun _ => id) fun _ => rfl) fun _ =>
    plain_law.value ()

theorem stopRequested_plain : Plain (Line.stopRequested : LineM σ Bool) :=
  ask_plain (fun _ _ _ _ h => h) (fun _ => id) fun _ => rfl

theorem clock_plain : Plain (Line.clock : LineM σ Nat) := Obeys.read fun _ => plain_law.value _

theorem deadline_plain (ms : Nat) : Plain (Line.deadline ms : LineM σ Nat) :=
  Obeys.read fun _ => plain_law.checked _

theorem writeAll_plain (patience : Nat) (data : Bytes) :
    Plain (Line.writeAll patience data : LineM σ Unit) := by
  induction patience, data using Line.writeAll.induct with
  | case1 patience data hne ihData ihWait =>
    rw [Line.writeAll.eq_def, dif_pos hne]
    refine plain_law.andThen (ask_plain (fun _ _ _ _ h => h) (fun _ => id) fun _ => rfl)
      fun answer => ?_
    rcases answer with e | _ | n
    · dsimp only
      split
      · cases patience with
        | zero => exact plain_law.thrown _
        | succ patience => exact ihWait
      · exact plain_law.failed _
    · exact plain_law.failed _
    · exact ihData n
  | case2 patience data hne =>
    rw [Line.writeAll.eq_def, dif_neg hne]
    exact plain_law.value ()

theorem send_plain (data : Bytes) : Plain (Line.send data : LineM σ Unit) := by
  refine Obeys.read fun l => plain_law.andThen (writeAll_plain _ _) fun _ => ?_
  refine plain_law.andThen (ask_plain (fun _ _ _ _ h => h) (fun _ => id) fun _ => rfl)
    fun answer => ?_
  cases answer with
  | ok _ => exact plain_law.value ()
  | error e => exact plain_law.failed _

theorem receive_plain (ms : Nat) : Plain (Line.receive ms : LineM σ (Option UInt8)) := by
  intro l
  refine (receive_ends ms l).weaken ?_
  rintro r _ _ rfl
  exact .single id rfl

namespace Transfer

theorem readByte_plain (ms : Nat) : Plain (readByte ms : LineM σ UInt8) := by
  refine plain_law.andThen (receive_plain ms) fun answer => ?_
  cases answer with
  | some b => exact plain_law.value b
  | none => exact plain_law.failed _

theorem verifyChecksum_plain (expected : UInt8) (ms : Nat) :
    Plain (verifyChecksum expected ms : LineM σ Unit) := by
  refine plain_law.andThen (readByte_plain ms) fun actual => ?_
  split
  · exact plain_law.value ()
  · exact plain_law.failed _

theorem expectAck_plain (step : Step) (ms : Nat) :
    Plain (expectAck step ms : LineM σ Unit) := by
  refine plain_law.andThen (readByte_plain ms) fun received => ?_
  split
  · exact note_plain _
  · exact plain_law.failed _

theorem sendBlock_plain (data : Bytes) : Plain (sendBlock data : LineM σ UInt8) :=
  plain_law.andThen (send_plain data) fun _ => plain_law.value _

theorem sendByte_plain (b : UInt8) : Plain (sendByte b : LineM σ Unit) := send_plain [b]

end Transfer

end Lines

section Links

variable {σ κ α : Type} [SerialHost σ]

/-- What holds of the traces on the line holds of those over the link. -/
theorem Link.onLine_obeys {ok : Trace → Prop} {act : LineM σ α} (h : Obeys (fun _ t _ => ok t) act) :
    Obeys (fun _ t _ => ok t) (Link.onLine act : LinkM σ κ α) :=
  Obeys.part h (fun _ => rfl) (fun _ _ => rfl) fun _ _ _ _ ht => ht

theorem Link.onLine_plain {act : LineM σ α} (h : Plain act) :
    Plain (Link.onLine act : LinkM σ κ α) := Link.onLine_obeys h

/-- The header goes out in one exchange. -/
theorem RamStage.sendHeader_obeys [CommandChannel σ κ] {ok : Trace → Prop}
    (h : Obeys (fun _ t _ => ok t) (CommandChannel.send : LinkM σ κ Status)) (image : Image) :
    Obeys (fun _ t _ => ok t) (sendHeader image : LinkM σ κ Unit) := by
  intro link
  refine (sendHeader_ends (h _)).weaken ?_
  rintro r t link' ⟨answer, ht, -⟩
  exact ht

namespace Channel

theorem readPacket_plain (address : UInt8) (deadline patience : Nat) (d : Decoder) :
    Plain (readPacket address deadline patience d : LineM σ (Option Packet)) := by
  induction patience generalizing d with
  | zero => exact plain_law.thrown _
  | succ patience ih =>
    refine plain_law.andThen clock_plain fun now => ?_
    refine plain_law.andThen (receive_plain _) fun answer => ?_
    cases answer with
    | none => exact plain_law.value none
    | some b =>
      refine maybe_note_plain ?_
      rcases d.push b with ⟨e | _ | p, d'⟩
      · exact plain_law.failed _
      · exact ih _
      · dsimp only
        split
        · exact plain_law.value _
        · exact plain_law.andThen (note_plain _) fun _ => ih _

theorem awaitReply_plain (address : UInt8) (ms : Nat) :
    Plain (awaitReply address ms : LineM σ (Option Packet)) :=
  plain_law.andThen (deadline_plain ms) fun _ => Obeys.read fun _ => readPacket_plain _ _ _ _

theorem complete_plain (reply : Packet) : Plain (complete reply : LinkM σ Channel Status) := by
  refine plain_law.andThen (Link.onLine_plain (note_plain _)) fun _ => ?_
  cases reply.data with
  | nil => exact plain_law.failed _
  | cons b rest =>
    refine plain_law.andThen (Obeys.change (fun _ => rfl) fun _ => .nil) fun _ => ?_
    exact plain_law.value _

theorem exchange_plain (packet : Bytes) (attempts left : Nat) (last : Option Error) :
    Plain (exchange packet attempts left last : LinkM σ Channel Status) := by
  induction left generalizing last with
  | zero => exact Obeys.read fun link => plain_law.failed _
  | succ left ih =>
    refine Obeys.read fun link => ?_
    refine plain_law.andThen (Link.onLine_plain (note_plain _)) fun _ => ?_
    refine plain_law.andThen (Link.onLine_plain (send_plain packet)) fun _ => ?_
    refine plain_law.tried (Link.onLine_plain (awaitReply_plain _ _)) (fun answer => ?_) fun e => ?_
    · cases answer with
      | none => exact plain_law.andThen (Link.onLine_plain (note_plain _)) fun _ => ih last
      | some reply => exact complete_plain reply
    · dsimp only
      split
      · exact plain_law.andThen (Link.onLine_plain (note_plain _)) fun _ => ih (some e)
      · exact plain_law.failed _

theorem transact_plain : Plain (transact : LinkM σ Channel Status) := by
  refine Obeys.read fun link => ?_
  dsimp only
  split
  · exact plain_law.failed _
  · exact plain_law.andThen (plain_law.result _) fun packet => exchange_plain _ _ _ none

theorem sync_plain : Plain (sync : LinkM σ Channel Status) := by
  unfold sync
  refine plain_law.andThen (Obeys.change (fun _ => rfl) fun _ => .nil) fun _ => ?_
  exact transact_plain

end Channel

end Links

section Channels

variable (σ κ : Type) [SerialHost σ] [CommandChannel σ κ]

/-- The channel exchanges commands without reporting progress. -/
structure Reportless : Prop where
  sync : Tacit (CommandChannel.sync : LinkM σ κ Status)
  send : Tacit (CommandChannel.send : LinkM σ κ Status)

/-- The channel exchanges commands, and leaves the port with its owner. -/
structure OnlyTalks : Prop where
  sync : Keeps (CommandChannel.sync : LinkM σ κ Status)
  send : Keeps (CommandChannel.send : LinkM σ κ Status)

end Channels

namespace Channel

variable {σ : Type} [SerialHost σ]

/-- The packet channel reports no progress. -/
theorem reportless : Reportless σ Channel := ⟨sync_plain.tacit, transact_plain.tacit⟩

/-- The packet channel only talks. -/
theorem onlyTalks : OnlyTalks σ Channel := ⟨sync_plain.keeps, transact_plain.keeps⟩

end Channel

section Sessions

variable {σ : Type} [SerialHost σ]

/-- A law of sessions that their operations obey while the device is waited for, and that does not
mind how the line is used, if the trace is `ok`. -/
structure Upholds (ok : Trace → Prop) (Q : Session σ → Trace → Session σ → Prop) : Prop where
  law : Law Q
  plain : ∀ {t}, t.Plain → ok t
  used : ∀ {s t line}, s.line.Leads t line → ok t → Q s t { s with line }
  close : Obeys Q Session.close
  reopen : ∀ baud ms, Obeys Q (Session.reopen baud ms)

/-- A law of the session of a run. -/
def Run.Via {κ : Type} (Q : Session σ → Trace → Session σ → Prop) (run : Run σ κ) (t : Trace)
    (run' : Run σ κ) : Prop := Q run.session t run'.session

namespace Upholds

variable {κ α : Type} {ok : Trace → Prop} {Q : Session σ → Trace → Session σ → Prop}

theorem onLine (h : Upholds ok Q) {act : LineM σ α} (hact : Obeys (fun _ t _ => ok t) act) :
    Obeys Q (Session.onLine act) :=
  Obeys.part hact (fun _ => rfl) (fun _ _ => rfl) fun _ _ _ hl ht => h.used hl ht

theorem requireOpen (h : Upholds ok Q) : Obeys Q (Session.requireOpen : SessionM σ Unit) := by
  refine Obeys.read fun s => ?_
  split
  · exact h.law.value ()
  · exact h.law.failed _

theorem via (h : Upholds ok Q) : Law (Run.Via Q : Run σ κ → Trace → Run σ κ → Prop) where
  nothing run := h.law.nothing run.session
  append ht hu := h.law.append ht hu

theorem onSession {act : SessionM σ α} (hact : Obeys Q act) :
    Obeys (Run.Via Q) (Run.onSession act : RunM σ κ α) :=
  Obeys.part hact (fun _ => rfl) (fun _ _ => rfl) fun _ _ _ _ ht => ht

theorem plainly (h : Upholds ok Q) {act : LineM σ α} (hact : Plain act) :
    Obeys (Run.Via Q) (Run.onLine act : RunM σ κ α) :=
  onSession (h.onLine (Obeys.weaken hact h.plain))

theorem note (h : Upholds ok Q) (n : Note) : Obeys (Run.Via Q) (Run.note n : RunM σ κ Unit) :=
  h.plainly (note_plain n)

/-- An exchange over the open port uses the line, and nothing else of the session. -/
theorem onLink (h : Upholds ok Q) {act : LinkM σ κ α} (hact : Obeys (fun _ t _ => ok t) act) :
    Obeys (Run.Via Q) (Run.onLink act) :=
  h.via.andThen (onSession h.requireOpen) fun _ =>
    Obeys.part hact (fun _ => rfl) (fun _ _ => rfl) fun _ _ _ hl ht => h.used hl ht

variable [CommandChannel σ κ] (h : Upholds ok Q)
  (sync : Obeys (fun _ t _ => ok t) (CommandChannel.sync : LinkM σ κ Status))

include h sync

/-- One round of the wait for the device. -/
theorem round (number : Nat) :
    Obeys (Run.Via Q) (Resync.round number : RunM σ κ Bool) := by
  have hopen : Obeys (Run.Via Q) (Resync.ensureOpen : RunM σ κ Unit) := by
    refine Obeys.read fun run => ?_
    split
    · exact h.via.value ()
    · exact h.via.tried (onSession (h.reopen _ _)) (fun _ => h.via.value ()) fun e => h.note _
  have htry : Obeys (Run.Via Q) (Resync.trySync number : RunM σ κ Bool) := by
    refine h.via.tried (h.onLink sync) (fun status => ?_) fun e => ?_
    · dsimp only
      split
      · exact h.via.andThen (h.note _) fun _ => h.via.value true
      · exact h.via.andThen (h.note _) fun _ => h.via.value false
    · refine h.via.andThen (h.note _) fun _ => ?_
      split
      · exact h.via.andThen (onSession h.close) fun _ => h.via.value false
      · exact h.via.value false
  refine h.via.andThen hopen fun _ => Obeys.read fun run => ?_
  split
  · exact htry
  · exact h.via.value false

omit sync [CommandChannel σ κ] in
theorem checkLimits (timing : Timing) (start : Nat) :
    Obeys (Run.Via Q) (Resync.checkLimits timing start : RunM σ κ Unit) := by
  refine h.via.andThen (h.plainly stopRequested_plain) fun stop => ?_
  split
  · exact h.via.failed _
  · cases timing.resyncLimit with
    | none => exact h.via.value ()
    | some limit =>
      refine h.via.andThen (h.plainly clock_plain) fun now => ?_
      dsimp only
      split
      · exact h.via.failed _
      · exact h.via.value ()

theorem loop (timing : Timing) (start patience rounds : Nat) :
    Obeys (Run.Via Q) (Resync.loop timing start patience rounds : RunM σ κ Unit) := by
  induction patience generalizing rounds with
  | zero => exact h.via.thrown _
  | succ patience ih =>
    refine h.via.andThen (h.via.checked _) fun number => ?_
    refine h.via.andThen (h.round sync number) fun done => ?_
    split
    · exact h.via.value ()
    · refine h.via.andThen (h.checkLimits timing start) fun _ => ?_
      exact h.via.andThen (h.plainly (sleep_plain _)) fun _ => ih number

theorem resync (timing : Timing) : Obeys (Run.Via Q) (Resync.run timing : RunM σ κ Unit) := by
  refine h.via.andThen (onSession h.close) fun _ => ?_
  refine h.via.andThen (h.plainly clock_plain) fun start => ?_
  exact Obeys.read fun run => h.loop sync timing start _ 0

theorem findValidator : Obeys (Run.Via Q) (Update.findValidator : RunM σ κ Unit) := by
  refine h.via.tried (h.onLink sync) (fun status => ?_) fun e => h.via.failed _
  dsimp only
  split
  · exact h.note _
  · exact h.via.failed _

end Upholds

namespace Session

theorem Opens.unreported {port : String} {baud : UInt32} {r : Except Halt Unit} {t : Trace}
    (h : Opens port baud r t) : t.reports = [] := by
  cases h <;> rfl

theorem Closes.unreported {port : String} {wasOpen : Bool} {r : Except Halt Unit} {t : Trace}
    (h : Closes port wasOpen r t) : t.reports = [] := by
  cases h <;> rfl

theorem pause_unreported (ms : Nat) (port : String) : (pause ms port).reports = [] := by
  unfold pause
  split <;> rfl

theorem openAt_tacit (baud : UInt32) : Tacit (openAt baud : SessionM σ Unit) :=
  fun s => (openAt_ends baud s).weaken fun _ _ _ h => h.1.unreported

theorem reopen_tacit (baud : UInt32) (ms : Nat) : Tacit (reopen baud ms : SessionM σ Unit) := by
  intro s
  refine (reopen_calls baud ms s).weaken ?_
  rintro r t s' ⟨-, ⟨h, -, hc, -⟩ | ⟨closing, opening, hc, ho, rfl, -⟩⟩
  · exact hc.unreported
  · have hnote : Trace.reports (if r.toBool then [.noted (.reopened s.port baud)] else []) = [] := by
      split <;> rfl
    rw [Trace.reports_append, Trace.reports_append, Trace.reports_append, hc.unreported,
      pause_unreported, ho.unreported, hnote]
    rfl

end Session

/-- Nothing is reported while the device is waited for. -/
theorem tacit_upholds :
    Upholds (fun t => t.reports = []) fun (_ : Session σ) t _ => t.reports = [] where
  law := tacit_law
  plain ht := ht.unreported
  used _ ht := ht
  close s := (Session.close_ends s).weaken fun _ _ _ h => h.1.unreported
  reopen := Session.reopen_tacit

end Sessions

end SspUpdate
