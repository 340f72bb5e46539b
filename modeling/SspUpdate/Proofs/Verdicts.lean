import SspUpdate.Proofs.Delivery

/-!
# What an error tells

The outcome of a failed update says how far the device was touched. The early
outcomes mean that nothing but packets went out, the later ones that the
device had already been switched, and a missing acknowledgement that the RAM
stage was taken while nothing of the main stage had gone out. This needs one
promise of the host: that its port fails in the port's own ways.
-/

namespace SspUpdate

/-- The kinds of error a port has of its own. -/
def Error.OfPort (e : Error) : Prop := e.kind = .io ∨ e.kind = .serial ∨ e.kind = .port

theorem Error.OfPort.outcome {e : Error} (h : e.OfPort) : e.outcome = .portError := by
  obtain h | h | h := h <;> simp [Error.outcome, h, Kind.outcome]

/-- What a turn that asks for a checksum fails with. -/
inductive Error.OfChecksum : Error → Prop where
  | silence (ms : Nat) : OfChecksum (.noByteWithin ms)
  | wrong (expected actual : UInt8) : OfChecksum (.badChecksum expected actual)

instance : DecidablePred Error.OfPort := fun e =>
  inferInstanceAs (Decidable (e.kind = .io ∨ e.kind = .serial ∨ e.kind = .port))

/-- The error of a call that gave one. Opening is left out, as its failures are reported as
those of the port in any case. -/
def Entry.error? : Entry → Option Error
  | .closed _ (.error e) | .switched _ (.error e) | .received _ (.error (.failed e)) => some e
  | _ => none

/-- If the call failed, it failed in the port's own ways. -/
def Entry.Honest (x : Entry) : Prop := ∀ e ∈ x.error?, e.OfPort

instance : DecidablePred Entry.Honest := fun x =>
  inferInstanceAs (Decidable (∀ e ∈ x.error?, e.OfPort))

theorem Entry.Breaks.ofPort {x : Entry} {e : Error} (h : x.Breaks (.failed e)) : e.OfPort := by
  cases h <;> exact .inl rfl

section Parts

variable {σ : Type} [SerialHost σ] {image : Image} {timing : Timing} {port : String}
  {address : UInt8} {patience size : Nat} {t : Trace} {e : Error}

theorem Turn.failure_verified (timing : Timing) (data : Bytes) (sum : UInt8)
    (answer : Option UInt8) : ((Turn.verified timing data sum).failure answer).OfChecksum := by
  cases answer with
  | none => exact .silence _
  | some b => exact .wrong sum b

/-- Turns fail by the answer to one of them, or by the port. -/
theorem Plays.fails {us : List Turn} (h : Plays us (.error (.failed e)) t)
    (ht : ∀ x ∈ t, x.Honest) : e.OfPort ∨ ∃ k u answer, us[k]? = some u ∧ e = u.failure answer ∧
      t.sent = (us.take (k + 1)).flatMap Turn.data := by
  obtain ⟨k, u, answer, hu, he, hsent, -⟩ | ⟨x, hx, hb | ⟨ms, hr⟩⟩ := h.refused
  · exact .inr ⟨k, u, answer, hu, he, hsent⟩
  · exact .inl hb.ofPort
  · subst hr
    exact .inl (ht _ hx e rfl)

/-- The RAM stage fails by silence or a wrong checksum once the rate was switched. -/
theorem Runs.ramFails (h : Runs (Update.ramTransfer timing image) (.error (.failed e)) t)
    (ht : ∀ x ∈ t, x.Honest) : e.OfPort ∨
      (e.OfChecksum ∧ ∃ pause rest : Trace,
        t = pause ++ .switched image.header.transferBaud (.ok ()) :: rest ∧ pause.Silent) := by
  obtain ⟨q₁, t₁, rfl, hq₁, hswitch⟩ | ⟨q₁, t₁, t, rfl, hq₁, hswitch, h₁⟩ := h.failure
  · cases hswitch with
    | failed e => exact .inl (ht _ (List.mem_append_right _ List.mem_cons_self) e rfl)
  cases hswitch with
  | switched =>
    obtain ⟨q₂, t₂, rfl, hq₂, hplays⟩ | ⟨q₂, t₂, t, rfl, hq₂, hplays, h₂⟩ := h₁.failure
    · obtain hp | ⟨k, u, answer, hu, rfl, -⟩ := hplays.fails fun x hx => ht x (by simp [hx])
      · exact .inl hp
      · have hmem : u ∈ RamStage.turns timing image := List.mem_of_getElem? hu
        rw [RamStage.turns, List.mem_singleton] at hmem
        subst hmem
        exact .inr ⟨Turn.failure_verified timing _ _ answer, q₁, _, rfl, hq₁⟩
    · cases h₂

/-- The turns of the main stage that ask for an acknowledgement come first. -/
theorem MainStage.turns_cases {k : Nat} {u : Turn} (h : (turns timing image size)[k]? = some u) :
    (k = 0 ∧ u = .acknowledged timing .handshake [image.handshakeByte]) ∨
      (k = 1 ∧ u = .acknowledged timing .header image.headerBytes) ∨
      ∃ data sum, u = .verified timing data sum := by
  match k, h with
  | 0, h =>
    cases h
    exact .inl ⟨rfl, rfl⟩
  | 1, h =>
    cases h
    exact .inr (.inl ⟨rfl, rfl⟩)
  | k + 2, h =>
    refine .inr (.inr ?_)
    have hmem : u ∈ (image.mainStage.fullBlocks size).map (Turn.block timing) ++
        closing timing (image.mainStage.tail size) := List.mem_of_getElem? h
    rcases List.mem_append.mp hmem with hblock | htail
    · obtain ⟨block, -, rfl⟩ := List.mem_map.mp hblock
      exact ⟨_, _, rfl⟩
    · unfold closing at htail
      split at htail
      · cases htail
      · exact ⟨_, _, List.mem_singleton.mp htail⟩

/-- The main stage fails by silence, a wrong checksum, or before any of it went out by
a missing acknowledgement. -/
theorem mainPlays_fails (h : Plays (MainStage.turns timing image size) (.error (.failed e)) t)
    (ht : ∀ x ∈ t, x.Honest) : e.OfPort ∨ e.OfChecksum ∨
      ((∃ step b, e = .notAcknowledged step b) ∧ (t.sent = [image.handshakeByte] ∨
        t.sent = image.handshakeByte :: image.headerBytes)) := by
  obtain hp | ⟨k, u, answer, hu, rfl, hsent⟩ := h.fails ht
  · exact .inl hp
  obtain ⟨rfl, rfl⟩ | ⟨rfl, rfl⟩ | ⟨data, sum, rfl⟩ := MainStage.turns_cases hu
  · cases answer with
    | none => exact .inr (.inl (.silence _))
    | some b => exact .inr (.inr ⟨⟨.handshake, b, rfl⟩, .inl (hsent.trans rfl)⟩)
  · cases answer with
    | none => exact .inr (.inl (.silence _))
    | some b =>
      refine .inr (.inr ⟨⟨.header, b, rfl⟩, .inr (hsent.trans ?_)⟩)
      simp [MainStage.turns, MainStage.opening, Turn.acknowledged]
  · exact .inr (.inl (Turn.failure_verified timing data sum answer))

theorem Runs.mainFails
    (h : Runs (Update.mainTransfer timing image port size) (.error (.failed e)) t)
    (ht : ∀ x ∈ t, x.Honest) : e.OfPort ∨ e.OfChecksum ∨ ((∃ step b, e = .notAcknowledged step b) ∧
      ∃ quiet between main : Trace, t = quiet ++ .closed port (.ok ()) :: (between ++
        .switched image.header.transferBaud (.ok ()) :: main) ∧ quiet.Silent ∧
      between.Unswitched ∧ between.sent = [] ∧ main.Traffic ∧ (main.sent = [image.handshakeByte] ∨
        main.sent = image.handshakeByte :: image.headerBytes)) := by
  obtain ⟨quiet, between, main, rfl, hquiet, hbetween, hsent, -, hplays⟩ | ⟨e', he, hfail⟩ :=
    h.mainReached
  · obtain hp | hc | ⟨hack, hmain⟩ := mainPlays_fails hplays fun x hx => ht x (by simp [hx])
    · exact .inl hp
    · exact .inr (.inl hc)
    · exact .inr (.inr ⟨hack, quiet, between, main, rfl, hquiet, hbetween.unswitched, hsent,
        hplays.traffic, hmain⟩)
  · cases he
    obtain hkind | hmem | hmem := hfail
    · exact .inl (.inr (.inr hkind))
    · exact .inl (ht _ hmem e rfl)
    · exact .inl (ht _ hmem e rfl)

end Parts

/-- The trace of an update that delivered the RAM stage, and of the main stage sent
nothing but the handshake byte or also the header. -/
structure Unacknowledged (image : Image) (port : String)
    (start ram between main last trace : Trace) : Prop where
  parts : trace = start ++ .switched image.header.transferBaud (.ok ()) ::
    (ram ++ .closed port (.ok ()) :: (between ++
      .switched image.header.transferBaud (.ok ()) :: (main ++ last)))
  /-- No other switch was made. -/
  unswitched : start.Unswitched ∧ between.Unswitched ∧ last.Unswitched
  traffic : ram.Traffic ∧ main.Traffic
  ramSent : ram.sent = image.ramStage
  ramHeard : ram.heard = [image.ramStage.checksum]
  mainSent : main.sent = [image.handshakeByte] ∨
    main.sent = image.handshakeByte :: image.headerBytes
  restSent : between.sent = [] ∧ last.sent = []

/-- The rate was switched, and before that the device accepted the header. -/
def Touched (image : Image) (device : UInt8) (trace : Trace) : Prop :=
  ∃ start rest : Trace, trace = start ++ .switched image.header.transferBaud (.ok ()) :: rest ∧
    start.Unswitched ∧ Channel.Exchanged (Channel.headerPacket device image) device
      (fun reply => reply.status? = some .ok) start

/-- What each outcome of a failed update tells about its trace. A failure of the port may
come at any time, and the outcomes of an image file never do. -/
def Tells (image : Image) (port : String) (device : UInt8) (trace : Trace) : Outcome → Prop
  | .noValidator =>
    trace.Unswitched ∧ Channel.CopiesOf (Channel.syncPacket device) trace.sent
  | .sendProgramCmdError => trace.Unswitched ∧
    ∃ i rest, trace.sent = Channel.copies i (Channel.syncPacket device) ++ rest ∧
      Channel.CopiesOf (Channel.programPacket device) rest
  | .invalidFileType => trace.Unswitched ∧
    ∃ i j rest, trace.sent = Channel.copies i (Channel.syncPacket device) ++
      (Channel.copies j (Channel.programPacket device) ++ rest) ∧
      Channel.CopiesOf (Channel.headerPacket device image) rest
  | .timeout | .badChecksum => Touched image device trace
  | .deviceDidNotAck => Touched image device trace ∧
    ∃ start ram between main last, Unacknowledged image port start ram between main last trace
  | .portError => True
  | .ok | .fileNotFound | .fileError => False

/-- The error says that the wait for the device was given up. -/
def Error.OfWait (e : Error) : Prop := e = .resyncInterrupted ∨ ∃ seconds, e = .noResync seconds

section Tells

variable {image : Image} {port : String} {device : UInt8} {e : Error} {t trace : Trace}

theorem Tells.of_port (h : e.OfPort) : Tells image port device trace e.outcome := by
  rw [h.outcome]
  trivial

theorem Tells.of_checksum (h : e.OfChecksum) (ht : Touched image device trace) :
    Tells image port device trace e.outcome := by
  cases h <;> exact ht

theorem Tells.of_turnedAway {sent : Bytes} (h : TurnedAway image device e sent)
    (hsent : trace.sent = sent) (hs : trace.Unswitched) :
    Tells image port device trace e.outcome := by
  rw [Error.outcome]
  cases h with
  | unopened kind =>
    rw [kind]
    trivial
  | unfound kind hcopies =>
    rw [kind]
    exact ⟨hs, hsent ▸ hcopies⟩
  | unasked kind hcopies =>
    rw [kind]
    exact ⟨hs, _, _, hsent, hcopies⟩
  | untold kind hcopies =>
    rw [kind]
    exact ⟨hs, _, _, _, hsent, hcopies⟩

theorem Error.OfWait.timeout (h : e.OfWait) : e.kind = .timeout := by
  obtain rfl | ⟨seconds, rfl⟩ := h <;> rfl

theorem Error.OfPort.not_ofWait (h : e.OfPort) : ¬ e.OfWait := by
  intro hw
  rw [OfPort, hw.timeout] at h
  simp at h

theorem Error.OfChecksum.not_ofWait (h : e.OfChecksum) : ¬ e.OfWait := by
  rintro (rfl | ⟨seconds, rfl⟩) <;> cases h

theorem TurnedAway.not_ofWait {sent : Bytes} (h : TurnedAway image device e sent) :
    ¬ e.OfWait := by
  intro hw
  have hkind := hw.timeout
  cases h with
  | unopened kind => simp [kind] at hkind
  | unfound kind _ => simp [kind] at hkind
  | unasked kind _ => simp [kind] at hkind
  | untold kind _ => simp [kind] at hkind

theorem Introduced.touched {size : Nat} {pause : Trace} (h : Introduced image device size t)
    (hp : pause.Silent) (rest : Trace) :
    Touched image device (t ++ (pause ++ .switched image.header.transferBaud (.ok ()) :: rest)) :=
  ⟨t ++ pause, rest, by simp, by simp [h.steady.unswitched, hp.traffic.unswitched],
    h.told.left pause⟩

theorem Delivered.touched {size : Nat} {start ram between main wait : Trace}
    (h : Delivered image port device size start ram between main wait trace) :
    Touched image device trace :=
  ⟨start, _, h.parts, h.unswitched.1, h.told⟩

end Tells

section Runs

variable {σ : Type} [SerialHost σ] {image : Image} {timing : Timing} {port : String}
  {device : UInt8} {patience size : Nat} {t last : Trace} {e : Error}

/-- A main stage that was not acknowledged leaves the RAM stage taken. -/
theorem Runs.unacknowledged {start t₁ quiet between main : Trace}
    (hintro : Introduced image device size start)
    (hram : Runs (Update.ramTransfer timing image) (.ok ()) t₁) (hquiet : quiet.Silent)
    (hbetween : between.Unswitched ∧ between.sent = []) (hmain : main.Traffic)
    (hsent : main.sent = [image.handshakeByte] ∨
      main.sent = image.handshakeByte :: image.headerBytes)
    (hlast : Session.Finishes last) :
    Touched image device (start ++ (t₁ ++ (quiet ++ .closed port (.ok ()) :: (between ++
      .switched image.header.transferBaud (.ok ()) :: main))) ++ last) ∧
    ∃ start' ram between' main' last', Unacknowledged image port start' ram between' main' last'
      (start ++ (t₁ ++ (quiet ++ .closed port (.ok ()) :: (between ++
        .switched image.header.transferBaud (.ok ()) :: main))) ++ last) := by
  obtain ⟨pause, ram, rfl, hpause, htraffic, hramSent, hramHeard⟩ := hram.ramTaken
  obtain ⟨hsteady, hlastSent, -⟩ := hlast.quiet
  constructor
  · have h := hintro.touched hpause (ram ++ (quiet ++ .closed port (.ok ()) :: (between ++
      .switched image.header.transferBaud (.ok ()) :: main)) ++ last)
    simpa using h
  · refine ⟨start ++ pause, ram ++ quiet, between, main, last, ?_⟩
    constructor
    · simp
    · exact ⟨by simp [hintro.steady.unswitched, hpause.traffic.unswitched], hbetween.1,
        hsteady.unswitched⟩
    · exact ⟨htraffic.append hquiet.traffic, hmain⟩
    · rw [Trace.sent_append, hquiet.sent, List.append_nil, hramSent]
    · rw [Trace.heard_append, hquiet.heard, List.append_nil, hramHeard]
    · exact hsent
    · exact ⟨hbetween.2, hlastSent⟩

/-- A wait that failed comes after the delivery, and was given up or broken off by the port. -/
theorem Runs.waitTells {start t₁ t₂ pause wait : Trace}
    (hintro : Runs (Update.introduction (Channel.conversation (σ := σ) device image) port size)
      (.ok ()) start)
    (hram : Runs (Update.ramTransfer timing image) (.ok ()) t₁)
    (hmain : Runs (Update.mainTransfer timing image port size) (.ok ()) t₂) (hpause : pause.Silent)
    (hwait : Resync.Resyncs port (Channel.conversation (σ := σ) device image).sync patience
      (.error (.failed e)) wait)
    (honest : ∀ x ∈ wait, x.Honest) (hlast : last.Steady commandBaud) :
    let trace := start ++ (t₁ ++ (t₂ ++ (pause ++ (wait ++ last))))
    Tells image port device trace e.outcome ∧ (e.OfWait → ∃ start' ram between main rest,
      Delivered image port device size start' ram between main rest trace) := by
  intro trace
  obtain ⟨start', ram, between, main, hdelivered⟩ :=
    Runs.delivered hintro hram hmain hpause hwait hlast
  have hblame : e.OfWait ∨ e.OfPort := by
    obtain rfl | hs | hclosed := hwait.blame e rfl
    · exact .inl (.inl rfl)
    · exact .inl (.inr hs)
    · exact .inr (honest _ hclosed e rfl)
  refine ⟨?_, fun _ => ⟨start', ram, between, main, _, hdelivered⟩⟩
  obtain hw | hp := hblame
  · rw [Error.outcome, hw.timeout]
    exact hdelivered.touched
  · exact .of_port hp

/-- A run through the course that failed tells how far it got. -/
theorem Runs.tells
    (h : Runs (Update.course (Channel.conversation (σ := σ) device image) timing port patience size)
      (.error (.failed e)) t) (honest : ∀ x ∈ t, x.Honest) (hlast : Session.Finishes last) :
    Tells image port device (t ++ last) e.outcome ∧ (e.OfWait → ∃ start ram between main wait,
      Delivered image port device size start ram between main wait (t ++ last)) := by
  have never : ∀ {P : Prop}, ¬ e.OfWait → e.OfWait → P := fun hn hw => (hn hw).elim
  obtain ⟨hsteady, hsent, -⟩ := hlast.quiet
  obtain ⟨_, hr, hintro⟩ | ⟨start, t, rfl, hintro, h₁⟩ := h.split
  · cases hr
    obtain ⟨hstart, haway⟩ := hintro.turnedAway
    refine ⟨.of_turnedAway haway ?_ ?_, never haway.not_ofWait⟩
    · rw [Trace.sent_append, hsent, List.append_nil]
    · exact (hstart.append hsteady).unswitched
  have hintroduced := hintro.introduced
  obtain ⟨_, hr, hram⟩ | ⟨t₁, t, rfl, hram, h₂⟩ := h₁.split
  · cases hr
    obtain hp | ⟨hc, pause, rest, rfl, hpause⟩ := hram.ramFails fun x hx => honest x (by simp [hx])
    · exact ⟨.of_port hp, never hp.not_ofWait⟩
    · have htouched := hintroduced.touched hpause (rest ++ last)
      exact ⟨.of_checksum hc (by simpa using htouched), never hc.not_ofWait⟩
  obtain ⟨pause₁, ram, ht₁, hpause₁, -⟩ := hram.ramTaken
  obtain ⟨_, hr, hmain⟩ | ⟨t₂, t, rfl, hmain, h₃⟩ := h₂.split
  · cases hr
    obtain hp | hc | ⟨⟨step, b, rfl⟩, quiet, between, main, rfl, hquiet, hs, hbs, htraffic, hms⟩ :=
      hmain.mainFails fun x hx => honest x (by simp [hx])
    · exact ⟨.of_port hp, never hp.not_ofWait⟩
    · have htouched := hintroduced.touched hpause₁ (ram ++ (t ++ last))
      exact ⟨.of_checksum hc (by simpa [ht₁] using htouched), never hc.not_ofWait⟩
    · refine ⟨Runs.unacknowledged hintroduced hram hquiet ⟨hs, hbs⟩ htraffic hms hlast,
        fun hw => ?_⟩
      cases hw.timeout
  obtain ⟨pause, wait, rfl, hpause, hwait⟩ | ⟨_, _, _, _, _, _, h₄⟩ := h₃.failure
  · have hwaits := Runs.waitTells hintro hram hmain hpause hwait
      (fun x hx => honest x (by simp [hx])) hsteady
    simpa using hwaits
  · cases h₄

end Runs

/-- On every host, where the port fails in its own ways, the error of a failed update over the
packet channel tells how far the device was touched; once the wait for the device has been given
up, the whole image had been delivered. -/
theorem update_error_tells {σ : Type} [SerialHost σ] (u : Updater σ Channel) (image : Image)
    (port address : String) (e : Error)
    (h : (u.update image port address).1 = .error (.failed e)) :
    ∃ trace : Trace, (u.update image port address).2.line.history = u.line.history ++ trace ∧
      ((∀ x ∈ trace, x.Honest) →
        Tells image port (AddressReading.ofString address).value trace e.outcome ∧
        (e.OfWait → ∃ size start ram between main wait,
          Delivered image port (AddressReading.ofString address).value size start ram between main
            wait trace)) := by
  obtain ⟨size, t, last, -, -, hruns, hlast, hlead⟩ := update_runs
    (Channel.conversation (AddressReading.ofString address).value image) u port address ⟨rfl, rfl⟩
  rw [h] at hruns
  refine ⟨t ++ last, hlead.history, fun honest => ?_⟩
  obtain ⟨htells, hdelivered⟩ := hruns.tells (fun x hx => honest x (by simp [hx])) hlast
  exact ⟨htells, fun hw => ⟨size, hdelivered hw⟩⟩

/-- A wire on which the device takes the RAM stage of the small image, and then answers the
handshake with something else than an acknowledgement. -/
def Wire.refusing : Wire where
  replies := Wire.rehearsed.replies.take 4 ++ [[0x15]]

theorem update_error_tells_small :
    let u : Updater Wire Channel := ⟨⟨Wire.refusing, [], 20⟩, .new, {}⟩
    (u.update .small "COM1" "0").1 = .error (.failed (.notAcknowledged .handshake 0x15)) ∧
      ∃ trace : Trace, (u.update .small "COM1" "0").2.line.history = u.line.history ++ trace ∧
        (∀ x ∈ trace, x.Honest) ∧
        Tells .small "COM1" (AddressReading.ofString "0").value trace .deviceDidNotAck := by
  intro u
  have hfails : (u.update .small "COM1" "0").1 =
      .error (.failed (.notAcknowledged .handshake 0x15)) := by decide +kernel
  have hhonest : ∀ x ∈ (u.update .small "COM1" "0").2.line.history, x.Honest := by decide +kernel
  obtain ⟨trace, htrace, htells⟩ := update_error_tells u .small "COM1" "0" _ hfails
  have honest : ∀ x ∈ trace, x.Honest := fun x hx =>
    hhonest x (htrace ▸ List.mem_append_right _ hx)
  exact ⟨hfails, trace, htrace, honest, (htells honest).1⟩

end SspUpdate
