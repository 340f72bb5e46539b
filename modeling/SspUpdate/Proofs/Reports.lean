import SspUpdate.Proofs.Delivery
import SspUpdate.Proofs.Marks

/-!
# What an update reports

Before the transfers and after them an update makes no report, so its reports
are those of its two stages. They are a first part of a sequence known from the
image and the block size that the device told, and the whole sequence if the
update succeeds. Each report has its bytes behind it on the port, sent since
the port was switched to the transfer rate.
-/

namespace SspUpdate

namespace Trace

/-- Every report in the trace leaves one of the marks, counting the bytes that went out and came
back since the port was last switched, which was to this rate. -/
def Backed (rate : UInt32) (ms : List Mark) (t : Trace) : Prop :=
  ∀ before p after, t = before ++ .progressed p :: after → ∃ earlier since : Trace,
    before = earlier ++ .switched rate (.ok ()) :: since ∧ since.Traffic ∧
      ⟨p, since.sent, since.heard⟩ ∈ ms

/-- Before anything is reported, the device accepted the program command and told the size. -/
def Tells (σ κ : Type) [SerialHost σ] [CommandChannel σ κ] (size : Nat) (t : Trace) : Prop :=
  ∃ before exch after : Trace, ∃ link link' : Link σ κ, t = before ++ (exch ++ after) ∧
    before.reports = [] ∧ exch.reports = [] ∧ link.command.data = RamStage.programCommand ∧
    CommandChannel.send link = .ok Status.ok link' ∧ link.line.Leads exch link'.line ∧
    RamStage.blockSize? link'.command.response = some size

theorem Tells.left {σ κ : Type} [SerialHost σ] [CommandChannel σ κ] {size : Nat} {t : Trace}
    (h : t.Tells σ κ size) (u : Trace) : Tells σ κ size (t ++ u) := by
  obtain ⟨before, exch, after, link, link', rfl, h⟩ := h
  exact ⟨before, exch, after ++ u, link, link', by simp, h⟩

theorem Tells.right {σ κ : Type} [SerialHost σ] [CommandChannel σ κ] {size : Nat} {t u : Trace}
    (h : t.Tells σ κ size) (hu : u.reports = []) : Tells σ κ size (u ++ t) := by
  obtain ⟨before, exch, after, link, link', rfl, hbefore, h⟩ := h
  exact ⟨u ++ before, exch, after, link, link', by simp, by simp [hu, hbefore], h⟩

namespace Backed

variable {rate : UInt32} {ms ms' : List Mark} {t u : Trace}

theorem of_unreported (h : t.reports = []) : Backed rate ms t := by
  rintro before p after rfl
  simp [Entry.progress?] at h

theorem mono (h : Backed rate ms t) (hms : ∀ m ∈ ms, m ∈ ms') : Backed rate ms' t := by
  intro before p after ht
  obtain ⟨earlier, since, hbefore, htraffic, hm⟩ := h before p after ht
  exact ⟨earlier, since, hbefore, htraffic, hms _ hm⟩

theorem append (h : Backed rate ms t) (h' : Backed rate ms u) : Backed rate ms (t ++ u) := by
  intro before p after ht
  obtain ⟨more, rfl, hu⟩ | ⟨more, ht, hu⟩ := List.append_eq_append_iff.mp ht
  · obtain ⟨earlier, since, rfl, hrest⟩ := h' more p after hu
    exact ⟨t ++ earlier, since, by simp, hrest⟩
  · cases more with
    | nil =>
      obtain ⟨earlier, since, hnil, -⟩ := h' [] p after hu.symm
      simp at hnil
    | cons e more =>
      rw [List.cons_append, List.cons.injEq] at hu
      obtain ⟨rfl, -⟩ := hu
      exact h before p more ht

/-- A transfer behind a switch to the rate. -/
theorem of_marked {α : Type} {out back : Bytes} {a : α} {r : Except Halt α}
    (h : Marked out back ms a r t) : Backed rate ms (.switched rate (.ok ()) :: t) := by
  intro before p after ht
  cases before with
  | nil => simp at ht
  | cons e since =>
    rw [List.cons_append, List.cons.injEq] at ht
    obtain ⟨rfl, rfl⟩ := ht
    exact ⟨[], since, rfl, ((Trace.traffic_append _ _).mp h.traffic).1,
      h.marks.subset (mem_marks since after p)⟩

end Backed

end Trace

/-- The reports of a trace are those of the first marks, and backed by them. If it ended well,
they are those of all marks, and `I` holds of what it gave. -/
structure Accounts {α : Type} (rate : UInt32) (ms : List Mark) (I : α → Prop) (r : Except Halt α)
    (t : Trace) : Prop where
  backed : t.Backed rate ms
  reports : t.reports <+: ms.map Mark.report
  whole : ∀ a, r = .ok a → t.reports = ms.map Mark.report ∧ I a

namespace Accounts

variable {α β : Type} {rate : UInt32} {ms ms' : List Mark} {I : α → Prop} {J : β → Prop}
  {r : Except Halt β} {t u : Trace}

/-- Marks after marks. -/
theorem append {a : α} (h : Accounts rate ms I (.ok a) t) (h' : Accounts rate ms' J r u) :
    Accounts rate (ms ++ ms') J r (t ++ u) := by
  obtain ⟨hreports, -⟩ := h.whole a rfl
  refine ⟨?_, ?_, fun b hr => ?_⟩
  · exact (h.backed.mono fun _ => List.mem_append_left _).append
      (h'.backed.mono fun _ => List.mem_append_right _)
  · rw [Trace.reports_append, hreports, List.map_append, List.prefix_append_right_inj]
    exact h'.reports
  · obtain ⟨hrest, hj⟩ := h'.whole b hr
    rw [Trace.reports_append, hreports, hrest, List.map_append]
    exact ⟨rfl, hj⟩

/-- After a failure no marks follow. -/
theorem extend {e : Halt} (h : Accounts rate ms I (.error e) t) :
    Accounts rate (ms ++ ms') J (.error e) t := by
  refine ⟨h.backed.mono fun _ => List.mem_append_left _, ?_, fun _ hr => by cases hr⟩
  rw [List.map_append]
  exact h.reports.trans (List.prefix_append _ _)

theorem failed {e : Halt} (h : t.reports = []) : Accounts rate ms I (.error e) t :=
  ⟨.of_unreported h, h ▸ List.nil_prefix, fun _ hr => by cases hr⟩

/-- What reports nothing may come before. -/
theorem behind (ht : t.reports = []) (h : Accounts rate ms J r u) :
    Accounts rate ms J r (t ++ u) := by
  have hall : Trace.reports (t ++ u) = u.reports := by
    rw [Trace.reports_append, ht, List.nil_append]
  refine ⟨(Trace.Backed.of_unreported ht).append h.backed, ?_, ?_⟩
  · rw [hall]
    exact h.reports
  · rw [hall]
    exact h.whole

/-- And it may come after. -/
theorem before {a : α} (h : Accounts rate ms I (.ok a) t) (hu : u.reports = [])
    (hj : ∀ b, r = .ok b → J b) : Accounts rate ms J r (t ++ u) := by
  have hall : Trace.reports (t ++ u) = t.reports := by
    rw [Trace.reports_append, hu, List.append_nil]
  refine ⟨h.backed.append (.of_unreported hu), ?_, fun b hr => ?_⟩
  · rw [hall]
    exact h.reports
  · rw [hall]
    exact ⟨(h.whole a rfl).1, hj b hr⟩

section Actions

variable {s σ : Type} [SerialHost σ] [HasLine s σ] {st : s}

theorem afterTacit {act : EStateM Halt s α} {k : α → EStateM Halt s β} (h : Tacit act)
    (hk : ∀ a st', Ends (k a) st' fun r t _ => Accounts rate ms J r t) :
    Ends (act >>= k) st fun r t _ => Accounts rate ms J r t :=
  Ends.andThen (h st) (fun a _ st' ht => (hk a st').weaken fun _ _ _ hu => hu.behind ht)
    fun _ _ _ ht => .failed ht

/-- A transfer behind the switch to its rate. -/
theorem switched {switch : EStateM Halt s Unit} {transfer : EStateM Halt s α} {K : s → Prop} {a : α}
    (h : Ends switch st fun r t st' => Session.Switches rate r t ∧ (r = .ok () → K st'))
    (hk : ∀ st', K st' → Ends transfer st' fun r t _ => ∃ out back, Marked out back ms a r t) :
    Ends (switch >>= fun _ => transfer) st fun r t _ => Accounts rate ms (· = a) r t := by
  refine Ends.andThen h ?_ ?_
  · rintro _ t st' ⟨hswitches, hkept⟩
    cases hswitches with
    | switched =>
      refine (hk st' (hkept rfl)).weaken ?_
      rintro r u st'' ⟨out, back, hu⟩
      have hreports : Trace.reports ([.switched rate (.ok ())] ++ u) = u.marks.map Mark.report := by
        rw [Trace.map_report_marks]
        rfl
      refine ⟨.of_marked hu, ?_, fun b hr => ?_⟩
      · rw [hreports]
        exact hu.marks.map _
      · obtain ⟨hvalue, -, -, hmarks⟩ := hu.whole b hr
        rw [hreports, hmarks]
        exact ⟨rfl, hvalue⟩
  · rintro e t st' ⟨hswitches, -⟩
    cases hswitches with
    | failed e => exact .failed rfl

end Actions

end Accounts

/-- The like for marks that depend on the block size. It is known unless the trace failed without
a report. -/
def AccountsSized {α : Type} (σ κ : Type) [SerialHost σ] [CommandChannel σ κ] (rate : UInt32)
    (ms : Nat → List Mark) (I : Nat → α → Prop) (r : Except Halt α) (t : Trace) : Prop :=
  ∃ size, 0 < size ∧ size < 65536 ∧ Accounts rate (ms size) (I size) r t ∧
    (t.Tells σ κ size ∨ t.reports = [] ∧ ∃ e, r = .error e)

namespace AccountsSized

variable {s σ κ α β : Type} [SerialHost σ] [CommandChannel σ κ] {rate : UInt32}
  {ms ms' : Nat → List Mark} {I : Nat → α → Prop} {J : Nat → β → Prop}

/-- A failure before any report fits every size. -/
theorem failed {e : Halt} {t : Trace} (h : t.reports = []) :
    AccountsSized σ κ rate ms I (.error e) t :=
  ⟨1, by decide, by decide, .failed h, .inr ⟨h, e, rfl⟩⟩

variable [HasLine s σ] {st : s}

theorem afterTacit {act : EStateM Halt s β} {k : β → EStateM Halt s α} (h : Tacit act)
    (hk : ∀ b st', Ends (k b) st' fun r t _ => AccountsSized σ κ rate ms I r t) :
    Ends (act >>= k) st fun r t _ => AccountsSized σ κ rate ms I r t := by
  refine Ends.andThen (h st) ?_ fun _ _ _ ht => failed ht
  intro b t st' ht
  refine (hk b st').weaken ?_
  rintro r u st'' ⟨size, hpos, hword, hu, htells⟩
  refine ⟨size, hpos, hword, hu.behind ht, ?_⟩
  rw [Trace.reports_append, ht, List.nil_append]
  exact htells.imp_left (·.right ht)

theorem andThen {act : EStateM Halt s α} {k : α → EStateM Halt s β}
    (h : Ends act st fun r t _ => AccountsSized σ κ rate ms I r t)
    (hk : ∀ size a st', 0 < size → size < 65536 → I size a →
      Ends (k a) st' fun r t _ => Accounts rate (ms' size) (J size) r t) :
    Ends (act >>= k) st fun r t _ =>
      AccountsSized σ κ rate (fun size => ms size ++ ms' size) J r t := by
  refine Ends.andThen h ?_ ?_
  · rintro a t st' ⟨size, hpos, hword, ht, htells⟩
    refine (hk size a st' hpos hword (ht.whole a rfl).2).weaken fun r u st'' hu => ?_
    obtain htold | ⟨-, e, he⟩ := htells
    · exact ⟨size, hpos, hword, ht.append hu, .inl (htold.left u)⟩
    · cases he
  · rintro e t st' ⟨size, hpos, hword, ht, htells⟩
    exact ⟨size, hpos, hword, ht.extend, htells.imp_right fun h => ⟨h.1, e, rfl⟩⟩

end AccountsSized

/-- The marks of an update with blocks of `size` bytes. -/
def Update.marks (image : Image) (size : Nat) : List Mark :=
  RamStage.marks image ++ MainStage.marks image size

/-- Within a stage the reports of an update grow, and none goes beyond the total. -/
theorem Update.marks_grow (image : Image) (size : Nat) :
    ((Update.marks image size).map Mark.report).Pairwise
        (fun p q => p.stage = q.stage → p.sent < q.sent) ∧
      ∀ p ∈ (Update.marks image size).map Mark.report, p.sent ≤ p.total := by
  have hram := RamStage.marks_grow image
  have hmain := MainStage.marks_grow image size
  constructor
  · refine List.pairwise_map.mpr (List.pairwise_append.mpr ⟨?_, ?_, ?_⟩)
    · refine hram.order.imp ?_
      exact fun hlt _ => hlt
    · refine hmain.order.imp ?_
      exact fun hlt _ => hlt
    · intro m hm n hn hsame
      rw [hram.stage m hm, hmain.stage n hn] at hsame
      cases hsame
  · intro p hp
    obtain ⟨m, hm, rfl⟩ := List.mem_map.mp hp
    exact (List.mem_append.mp hm).elim (hram.bounded m) (hmain.bounded m)

section Stages

variable {σ κ : Type} [SerialHost σ] [CommandChannel σ κ] (timing : Timing) (image : Image)

/-- Asking for the block size reports nothing, and when it gives one, the device told it. -/
theorem requestProgram_tells (silent : Reportless σ κ) (link : Link σ κ) :
    Ends RamStage.requestProgram link fun r t _ => t.reports = [] ∧
      ∀ size, r = .ok size → 0 < size ∧ size < 65536 ∧ t.Tells σ κ size := by
  obtain ⟨answer, t, link', he, hl, ht⟩ :=
    silent.send { link with command := { link.command with data := RamStage.programCommand } }
  refine (requestProgram_ends (P := fun r t' link'' => r = answer ∧ t' = t ∧ link'' = link')
    ⟨answer, t, link', he, hl, rfl, rfl, rfl⟩).weaken ?_
  rintro r _ _ ⟨_, ⟨rfl, rfl, rfl⟩, hsize, -⟩
  refine ⟨ht, fun size hr => ?_⟩
  obtain ⟨rfl, hresponse⟩ := (hsize size).mp hr
  obtain ⟨hpos, hword⟩ := RamStage.blockSize?_bounds hresponse
  exact ⟨hpos, hword, [], _, [], _, _, by simp, rfl, ht, rfl, he, hl, hresponse⟩

omit [CommandChannel σ κ] in
/-- The transfer of the RAM stage. -/
theorem ramTransfer_accounts (rate : UInt32) (ram : RamStage) (link : Link σ κ) :
    Ends (do
      Link.onLine (Line.setBaud rate)
      Link.onLine (RamStage.stream timing image rate)
      pure ram) link fun r t _ => Accounts rate (RamStage.marks image) (· = ram) r t := by
  have hswitch : Ends (Link.onLine (Line.setBaud rate)) link fun r t _ =>
      Session.Switches rate r t ∧ (r = .ok () → True) := by
    refine Channel.onLine_ends ((setBaud_ends rate link.line).weaken ?_)
    rintro _ _ _ ⟨a, rfl, rfl⟩
    cases a with
    | ok _ => exact ⟨.switched, fun _ => trivial⟩
    | error e => exact ⟨.failed e, fun _ => trivial⟩
  refine Accounts.switched hswitch fun link₁ _ => ?_
  have hstream : Ends (Link.onLine (RamStage.stream timing image rate)) link₁ fun r t _ =>
      Marked _ _ (RamStage.marks image) () r t :=
    Channel.onLine_ends (ramStream_marked timing image rate)
  have hvalue : Ends (do Link.onLine (RamStage.stream timing image rate); pure ram) link₁
      fun r t _ => Marked _ _ _ ram r t := hstream.marked fun _ => value_marked ram
  refine hvalue.weaken fun r u _ hu => ?_
  rw [List.map_nil, List.append_nil (RamStage.marks image)] at hu
  exact ⟨_, _, hu⟩

/-- The RAM stage, behind whatever the device is asked and told before. -/
theorem ramUpload_accounts (silent : Reportless σ κ) (rate : UInt32) (link : Link σ κ) :
    Ends (RamStage.upload timing image rate) link fun r t _ =>
      AccountsSized σ κ rate (fun _ => RamStage.marks image)
        (fun size ram => ram = ⟨image.header.ramSize.toUInt64, size.toUInt64⟩) r t := by
  refine Ends.andThen (requestProgram_tells silent link) ?_ fun _ _ _ ht => .failed ht.1
  rintro size t link₁ ⟨ht, htold⟩
  obtain ⟨hpos, hword, htells⟩ := htold size rfl
  have hrest : Ends (do
      Link.note (.blockSize size)
      RamStage.sendHeader image
      Link.onLine (Line.setBaud rate)
      Link.onLine (RamStage.stream timing image rate)
      pure (⟨image.header.ramSize.toUInt64, size.toUInt64⟩ : RamStage)) link₁ fun r t _ =>
      Accounts rate (RamStage.marks image)
        (· = ⟨image.header.ramSize.toUInt64, size.toUInt64⟩) r t := by
    refine Accounts.afterTacit (Link.onLine_plain (note_plain _)).tacit fun _ _ => ?_
    refine Accounts.afterTacit (RamStage.sendHeader_obeys silent.send image) fun _ link₂ => ?_
    exact ramTransfer_accounts timing image rate _ link₂
  exact hrest.weaken fun r u _ hu => ⟨size, hpos, hword, hu.behind ht, .inl (htells.left u)⟩

/-- The main stage, behind the reopening of the port. -/
theorem mainUpload_accounts (rate : UInt32) {size : Nat} (hs : 0 < size) (hw : size < 65536)
    (s : Session σ) :
    Ends (MainStage.upload timing image ⟨image.header.ramSize.toUInt64, size.toUInt64⟩ rate) s
      fun r t _ => Accounts rate (MainStage.marks image size) (· = ()) r t := by
  refine Ends.given (Plan.ofRamStage_eq image hs hw) ?_
  refine Ends.andThen ((Session.reopen_ends commandBaud timing.reopenDelay s).both
    (Session.reopen_tacit commandBaud timing.reopenDelay s)) ?_ fun _ _ _ h => .failed h.2
  rintro _ t s₁ ⟨⟨-, -, hopen, -⟩, ht⟩
  obtain ⟨hopen₁, -⟩ := hopen rfl
  have hswitch : Ends (Session.setBaud rate) s₁ fun r t s₂ =>
      Session.Switches rate r t ∧ (r = .ok () → s₂.isOpen = true) :=
    (Session.setBaud_ends rate hopen₁).weaken fun _ _ _ h => ⟨h.1, fun _ => h.2.2.1⟩
  refine (Accounts.switched hswitch fun s₂ hopen₂ => ?_).weaken fun _ _ _ hu => hu.behind ht
  exact Session.withPort_ends hopen₂ (mainStream_marked timing image hs rate)

/-- All steps behind the first exchange. -/
theorem delivery_accounts (silent : Reportless σ κ) (run : Run σ κ) :
    Ends (Update.delivery timing image) run fun r t _ =>
      AccountsSized σ κ image.header.transferBaud (Update.marks image) (fun _ _ => True) r t := by
  have hram : ∀ run : Run σ κ, Ends (Run.onLink (RamStage.upload timing image
      image.header.transferBaud)) run fun r t _ => AccountsSized σ κ image.header.transferBaud
        (fun _ => RamStage.marks image)
        (fun size ram => ram = ⟨image.header.ramSize.toUInt64, size.toUInt64⟩) r t := by
    refine fun run => AccountsSized.afterTacit (Upholds.onSession tacit_upholds.requireOpen) ?_
    exact fun _ run₁ => Ends.part rfl (fun _ => rfl)
      (ramUpload_accounts timing image silent image.header.transferBaud run₁.link)
  have hwait : Tacit (do Run.note .mainAccepted; Resync.run timing; Run.note .complete :
      RunM σ κ Unit) :=
    tacit_law.andThen (tacit_upholds.note _) fun _ =>
      tacit_law.andThen (tacit_upholds.resync silent.sync timing) fun _ => tacit_upholds.note _
  refine AccountsSized.afterTacit (tacit_upholds.note _) fun _ run₁ => ?_
  refine AccountsSized.andThen (hram run₁) ?_
  rintro size ram run₂ hpos hword rfl
  refine Accounts.afterTacit (tacit_upholds.note _) fun _ run₃ => ?_
  have hmain : Ends (Run.onSession (MainStage.upload timing image
      ⟨image.header.ramSize.toUInt64, size.toUInt64⟩ image.header.transferBaud)) run₃ fun r t _ =>
      Accounts image.header.transferBaud (MainStage.marks image size) (· = ()) r t :=
    Run.onSession_ends (mainUpload_accounts timing image _ hpos hword run₃.session)
  refine Ends.andThen hmain ?_ ?_
  · exact fun _ t run₄ ht => (hwait run₄).weaken fun r u _ hu => ht.before hu fun _ _ => trivial
  · exact fun e t _ ht => ⟨ht.backed, ht.reports, fun _ hr => by cases hr⟩

theorem steps_accounts (silent : Reportless σ κ) (run : Run σ κ) :
    Ends (Update.steps timing image) run fun r t _ =>
      AccountsSized σ κ image.header.transferBaud (Update.marks image) (fun _ _ => True) r t := by
  refine AccountsSized.afterTacit (Upholds.onSession (Session.openAt_tacit _)) fun _ _ => ?_
  refine AccountsSized.afterTacit (tacit_upholds.findValidator silent.sync) fun _ run₂ => ?_
  exact delivery_accounts timing image silent run₂

theorem body_accounts (silent : Reportless σ κ) (address : AddressReading) (run : Run σ κ) :
    Ends (Update.body timing image address) run fun r t _ =>
      AccountsSized σ κ image.header.transferBaud (Update.marks image) (fun _ _ => True) r t := by
  have hsteps : ∀ run : Run σ κ, Ends
      (do Run.note (.updating address.value (← get).session.port); Update.steps timing image) run
      fun r t _ =>
        AccountsSized σ κ image.header.transferBaud (Update.marks image) (fun _ _ => True) r t :=
    fun run => Ends.read (AccountsSized.afterTacit (tacit_upholds.note _) fun _ run₁ =>
      steps_accounts timing image silent run₁)
  unfold Update.body
  split
  · exact AccountsSized.afterTacit (tacit_upholds.note _) fun _ run₁ => hsteps run₁
  · exact hsteps run

end Stages

theorem Session.Finishes.reports {last : Trace} (h : Session.Finishes last) :
    last.reports = [] := by
  cases h <;> rfl

section Updates

variable {σ κ : Type} [SerialHost σ] [CommandChannel σ κ]

/-- Over every host and every channel that leaves the reporting to the update: the reports of an
update are the first ones of the sequence for its image and the block size that the device told,
and all of them if it succeeds. Every report is made behind its bytes: those it counts had gone
out, and of the full blocks of the main stage the checksums had come back. Within a stage the
reports grow, never beyond the total. -/
theorem update_reports (silent : Reportless σ κ) (u : Updater σ κ) (image : Image)
    (port address : String) : ∃ (size : Nat) (trace : Trace), 0 < size ∧ size < 65536 ∧
      (u.update image port address).2.line.history = u.line.history ++ trace ∧
      (trace.Tells σ κ size ∨ trace.reports = [] ∧ (u.update image port address).1 ≠ .ok ()) ∧
      trace.reports <+: (Update.marks image size).map Mark.report ∧
      ((u.update image port address).1 = .ok () →
        trace.reports = (Update.marks image size).map Mark.report) ∧
      trace.Backed image.header.transferBaud (Update.marks image size) ∧
      trace.reports.Pairwise (fun p q => p.stage = q.stage → p.sent < q.sent) ∧
      ∀ p ∈ trace.reports, p.sent ≤ p.total := by
  obtain ⟨t, last, ⟨size, hpos, hword, hacc, htells⟩, hlast, hleads⟩ :=
    update_ends u image port address (body_accounts u.timing image silent (.ofString address) _)
  have hall : Trace.reports (t ++ last) = t.reports := by
    rw [Trace.reports_append, hlast.reports, List.append_nil]
  obtain ⟨hgrow, hbounded⟩ := Update.marks_grow image size
  refine ⟨size, t ++ last, hpos, hword, hleads.history, ?_, ?_, fun hr => ?_, ?_, ?_, ?_⟩
  · rw [hall]
    obtain htold | ⟨hnone, e, he⟩ := htells
    · exact .inl (htold.left last)
    · exact .inr ⟨hnone, fun hr => by cases he.symm.trans hr⟩
  · rw [hall]
    exact hacc.reports
  · rw [hall]
    exact (hacc.whole () hr).1
  · exact hacc.backed.append (.of_unreported hlast.reports)
  · rw [hall]
    exact hgrow.sublist hacc.reports.sublist
  · rw [hall]
    exact fun p hp => hbounded p (hacc.reports.subset hp)

end Updates

theorem update_reports_rehearsed :
    let u : Updater Wire Channel := ⟨⟨Wire.rehearsed, [], 20⟩, .new, {}⟩
    ∃ (size : Nat) (trace : Trace),
      (u.update .small "COM1" "0").2.line.history = u.line.history ++ trace ∧
      trace.reports = [⟨.ram, 2, 2⟩, ⟨.main, 2, 3⟩, ⟨.main, 3, 3⟩] ∧
      trace.reports = (Update.marks .small size).map Mark.report ∧
      trace.Tells Wire Channel size ∧ trace.Backed 38400 (Update.marks .small size) := by
  intro u
  obtain ⟨hok, hreports⟩ : (u.update .small "COM1" "0").1 = .ok () ∧
      Trace.reports (u.update .small "COM1" "0").2.line.history =
        [⟨.ram, 2, 2⟩, ⟨.main, 2, 3⟩, ⟨.main, 3, 3⟩] := by decide +kernel
  have hrate : Image.small.header.transferBaud = 38400 := by decide +kernel
  obtain ⟨size, trace, -, -, htrace, htells, -, hwhole, hbacked, -⟩ :=
    update_reports (σ := Wire) Channel.reportless u .small "COM1" "0"
  have hall : (u.update .small "COM1" "0").2.line.history = trace := htrace
  rw [hall] at hreports
  rw [hrate] at hbacked
  refine ⟨size, trace, htrace, hreports, hwhole hok, ?_, hbacked⟩
  obtain htold | ⟨-, hfailed⟩ := htells
  · exact htold
  · exact absurd hok hfailed

end SspUpdate
