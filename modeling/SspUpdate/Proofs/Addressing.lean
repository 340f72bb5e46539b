import SspUpdate.Proofs.FaultlessWire
import SspUpdate.Proofs.Hearing
import SspUpdate.Proofs.Verdicts

/-!
# Which devices an update can find

An update asks the device at the low seven bits of its address, and listens to
the whole address. So it finds every device that answers, as long as the
address fits seven bits. At a higher address it asks a device that it cannot
hear, and ends without having found one.
-/

namespace SspUpdate

section Updates

variable {σ : Type} [SerialHost σ] {image : Image} {timing : Timing} {port : String}
  {device : UInt8}

/-- Opening a port that lets itself be opened. -/
theorem Session.openAt_opens {baud : UInt32} {s : Session σ} {opened : σ}
    (h : SerialHost.openPort s.port baud s.line.host = (.ok (), opened)) :
    Ends (openAt baud) s fun r _ s' => r = .ok () ∧ s'.line.host = opened ∧ s'.isOpen = true ∧
      s'.port = s.port := by
  obtain ⟨r, t, s', he, hl, hopens, hport, hok, -⟩ := openAt_ends baud s
  refine ⟨r, t, s', he, hl, ?_⟩
  have hpath := hl.path
  cases hopens with
  | opened =>
    cases hpath with
    | cons head tail =>
      cases tail
      have hsame := head.symm.trans h
      exact ⟨rfl, (Prod.mk.inj hsame).2, (hok rfl).1, hport⟩
  | failed e =>
    cases hpath with
    | cons head tail =>
      have hsame := head.symm.trans h
      cases (Prod.mk.inj hsame).1

open Update (Stands findValidator delivery)

/-- The first exchange hears the device that answers it. -/
theorem findValidator_hears {run : Run σ Channel} {bytes : Bytes} {reply : Packet}
    (h : Stands port (Channel.conversation (σ := σ) device image).Ready run)
    (hreplying : Replying run.session.line.patience run.command.timeout
      (Channel.syncPacket device) bytes (max 1 run.command.retries.toNat) run.session.line.host)
    (hstatus : reply.status? = some .ok) (hlong : bytes.length ≤ run.session.line.patience)
    (hlisten : Decoder.idle.listen device bytes = some (.ok reply, [])) :
    Ends findValidator run fun r t run' => r = .ok () ∧ .noted .validatorFound ∈ t ∧
      Stands port (Channel.conversation (σ := σ) device image).Synced run' := by
  obtain ⟨haddress, hclear⟩ := h.known
  subst haddress
  obtain ⟨link', hact⟩ : Succeeds Channel.sync run.link .ok :=
    sync_succeeds hclear hreplying hstatus hlong hlisten
  have hends := (Channel.conversation (σ := σ) run.command.address image).sync_ends run.link
    ⟨rfl, hclear⟩
  have houtcome : (CommandChannel.sync : LinkM σ Channel Status) run.link =
      outcome link' (.ok .ok) := hact
  obtain ⟨t, hleads, -, -, hsynced⟩ := hends.reached houtcome
  have hsync : Ends (Run.onLink CommandChannel.sync) run fun r _ run' => r = .ok .ok ∧
      Stands port (Channel.conversation (σ := σ) run.command.address image).Synced run' := by
    refine Run.onLink_ends h.isOpen ⟨.ok .ok, t, link', hact, hleads, rfl, ?_⟩
    exact ⟨h.name, h.isOpen, hsynced rfl⟩
  refine Ends.tried hsync ?_ ?_ ?_
  · rintro status u run' ⟨hok, hstands⟩
    cases hok
    refine run_note_ends fun run'' hrun => ⟨rfl, ?_, hstands.kept hrun⟩
    simp
  · rintro e u run' ⟨hr, -⟩
    cases hr
  · rintro _ u run' ⟨hr, -⟩
    cases hr

/-- The first exchange hears nobody at an address above the mask. -/
theorem findValidator_deaf {run : Run σ Channel}
    (h : Stands port (Channel.conversation (σ := σ) device image).Ready run)
    (hmask : 0x80 ≤ device) :
    Ends findValidator run fun r _ _ => (∃ cut, r = .error (.unfinished cut)) ∨
      ∃ e, r = .error (.failed e) ∧ e.kind = .noValidator := by
  have hsync : Ends (Run.onLink CommandChannel.sync) run fun r _ _ => ∀ status, r ≠ .ok status := by
    refine Run.onLink_ends h.isOpen
      (((Channel.conversation (σ := σ) device image).sync_ends run.link h.known).weaken ?_)
    rintro r t link' ⟨hcalls, -⟩ status rfl
    obtain ⟨reply, ⟨misses, last, -, -, -, hlisten⟩, -⟩ := hcalls.answered status rfl
    have hlow := reply.address_lt
    rw [Decoder.listen_address hlisten] at hlow
    exact absurd hmask (UInt8.not_le.mpr hlow)
  refine Ends.tried hsync ?_ ?_ ?_
  · intro status t run' hnone
    exact absurd rfl (hnone status)
  · intro e t run' _
    exact Ends.failed (.inr ⟨_, rfl, rfl⟩)
  · intro cut t run' _
    exact .inl ⟨cut, rfl⟩

theorem Error.OfPort.found {e : Error} (h : e.OfPort) : e.kind ≠ .noValidator := by
  intro hkind
  rw [OfPort, hkind] at h
  simp at h

theorem Error.OfChecksum.found {e : Error} (h : e.OfChecksum) : e.kind ≠ .noValidator := by
  cases h <;> simp [Error.kind]

/-- A delivery that fails does not say that there is no device, unless the port does so. -/
theorem delivery_fails {patience size : Nat} {t : Trace} {e : Error}
    (h : Runs (Update.deliveryCourse (Channel.conversation (σ := σ) device image) timing port
      patience size) (.error (.failed e)) t) (honest : ∀ x ∈ t, x.Honest) :
    e.kind ≠ .noValidator := by
  obtain ⟨_, ⟨⟩, hcommands⟩ | ⟨t₁, t, rfl, -, h₁⟩ := h.split
  · obtain ⟨_, _, -, -, hprogram⟩ | ⟨_, _, _, -, -, -, hcommands⟩ := hcommands.failure
    · simp [(asksSize_fails hprogram).2.1]
    · obtain ⟨_, _, -, -, hheader⟩ | ⟨_, _, _, -, -, -, hnone⟩ := hcommands.failure
      · simp [(header_fails hheader).2.1]
      · cases hnone
  obtain ⟨_, ⟨⟩, hram⟩ | ⟨t₂, t, rfl, -, h₂⟩ := h₁.split
  · obtain hp | ⟨hc, -⟩ := hram.ramFails fun x hx => honest x (by simp [hx])
    · exact hp.found
    · exact hc.found
  obtain ⟨_, ⟨⟩, hmain⟩ | ⟨t₃, t, rfl, -, h₃⟩ := h₂.split
  · obtain hp | hc | ⟨⟨step, b, rfl⟩, -⟩ := hmain.mainFails fun x hx => honest x (by simp [hx])
    · exact hp.found
    · exact hc.found
    · simp [Error.kind]
  obtain ⟨pause, wait, rfl, -, hwait⟩ | ⟨_, _, _, _, _, _, hnone⟩ := h₃.failure
  · obtain rfl | ⟨seconds, rfl⟩ | hclosed := hwait.blame e rfl
    · simp [Error.kind]
    · simp [Error.kind]
    · have hmem : Entry.closed port (.error e) ∈ t₁ ++ (t₂ ++ (t₃ ++ (pause ++ wait))) := by
        simp [hclosed]
      exact Error.OfPort.found (honest _ hmem e rfl)
  · cases hnone

/-- A note moves nothing but the journal. -/
theorem note_before {P : Except Halt Unit → Trace → Prop} {n : Note}
    {k : Unit → RunM σ Channel Unit} {run : Run σ Channel} (before : ∀ r t u, P r u → P r (t ++ u))
    (h : ∀ run', run.OnlyLine run' → run'.session.line.host = run.session.line.host →
      Ends (k ()) run' fun r t _ => P r t) :
    Ends (Run.note n >>= k) run fun r t _ => P r t := by
  have hnote : Ends (Run.note n) run fun r _ run' => r = .ok () ∧ run.OnlyLine run' ∧
      run'.session.line.host = run.session.line.host :=
    Run.onLine_ends (note_ends ⟨rfl, ⟨rfl, rfl, rfl, rfl, rfl⟩, rfl⟩)
  refine Ends.andThen hnote ?_ ?_
  · rintro _ t run' ⟨-, hrun, hhost⟩
    exact (h run' hrun hhost).weaken fun r u _ hp => before r t u hp
  · rintro _ _ _ ⟨hr, -⟩
    cases hr

/-- An update up to its first exchange, on a port that lets itself be opened: what holds of the
rest holds of the whole. -/
theorem body_opens {P : Except Halt Unit → Trace → Prop} {reading : AddressReading}
    {run : Run σ Channel} {opened : σ} (hport : run.session.port = port)
    (hready : run.command.address = device ∧ run.command.encrypted = false)
    (hopen : SerialHost.openPort port commandBaud run.session.line.host = (.ok (), opened))
    (before : ∀ r t u, P r u → P r (t ++ u))
    (rest : ∀ run' : Run σ Channel,
      Stands port (Channel.conversation (σ := σ) device image).Ready run' →
      run'.session.line.host = opened →
      run'.session.line.patience = run.session.line.patience → run'.command = run.command →
      Ends (findValidator >>= fun _ => delivery timing image) run' fun r t _ => P r t) :
    Ends (Update.body timing image reading) run fun r t _ => P r t := by
  have hsteps : ∀ run' : Run σ Channel, run.OnlyLine run' →
      run'.session.line.host = run.session.line.host →
      Ends (Update.steps timing image) run' fun r t _ => P r t := by
    intro run' hrun hhost
    have hname : run'.session.port = port := hrun.name.trans hport
    have hopening : Ends (Run.onSession (Session.openAt commandBaud)) run' fun r _ run'' =>
        r = .ok () ∧ run''.session.line.host = opened ∧ run''.session.line.patience =
          run.session.line.patience ∧ run''.session.isOpen = true ∧ run''.session.port = port ∧
          run''.command = run.command := by
      rw [← hname, ← hhost] at hopen
      refine Run.onSession_ends ((Session.openAt_opens hopen).patient.weaken ?_)
      rintro r t s ⟨⟨hr, hopened, hisOpen, hsame⟩, hpatience⟩
      exact ⟨hr, hopened, hpatience.trans hrun.patience, hisOpen, hsame.trans hname, hrun.command⟩
    refine Ends.andThen hopening ?_ ?_
    · rintro _ t run'' ⟨-, hopened, hpatience, hisOpen, hsame, hcommand⟩
      have hknown : Stands port (Channel.conversation (σ := σ) device image).Ready run'' := by
        refine ⟨hsame, hisOpen, ?_⟩
        rw [hcommand]
        exact hready
      exact (rest run'' hknown hopened hpatience hcommand).weaken fun r u _ hp => before r t u hp
    · rintro _ _ _ ⟨hr, -⟩
      cases hr
  have hnoted : ∀ run' : Run σ Channel, run.OnlyLine run' →
      run'.session.line.host = run.session.line.host →
      Ends (do Run.note (.updating reading.value (← get).session.port); Update.steps timing image)
        run' fun r t _ => P r t := by
    intro run' hrun hhost
    refine Ends.read (note_before before fun run'' hrun' hhost' => ?_)
    exact hsteps run'' (hrun.trans hrun') (hhost'.trans hhost)
  unfold Update.body
  split
  · exact note_before before hnoted
  · exact hnoted run (.refl run) rfl

/-- An update on a port that lets itself be opened, when the device that is asked answers and is
listened to: it is found, and the delivery begins. -/
theorem body_finds {reading : AddressReading} {run : Run σ Channel} {opened : σ} {bytes : Bytes}
    {reply : Packet} (hport : run.session.port = port)
    (hready : run.command.address = device ∧ run.command.encrypted = false)
    (hopen : SerialHost.openPort port commandBaud run.session.line.host = (.ok (), opened))
    (hreplying : Replying run.session.line.patience run.command.timeout
      (Channel.syncPacket device) bytes (max 1 run.command.retries.toNat) opened)
    (hstatus : reply.status? = some .ok) (hlong : bytes.length ≤ run.session.line.patience)
    (hlisten : Decoder.idle.listen device bytes = some (.ok reply, [])) :
    Ends (Update.body timing image reading) run fun r t _ => .noted .validatorFound ∈ t ∧
      ((∀ x ∈ t, x.Honest) → ∀ e, r = .error (.failed e) → e.kind ≠ .noValidator) := by
  refine body_opens (P := fun r t => .noted .validatorFound ∈ t ∧
    ((∀ x ∈ t, x.Honest) → ∀ e, r = .error (.failed e) → e.kind ≠ .noValidator))
    hport hready hopen ?_ ?_
  · rintro r t u ⟨hfound, hblame⟩
    exact ⟨List.mem_append_right t hfound,
      fun honest => hblame fun x hx => honest x (List.mem_append_right t hx)⟩
  · intro run' hstands hopened hpatience hcommand
    rw [← hpatience] at hlong
    rw [← hpatience, ← hcommand, ← hopened] at hreplying
    refine Ends.andThen (findValidator_hears hstands hreplying hstatus hlong hlisten) ?_ ?_
    · rintro _ t run'' ⟨-, hfound, hsynced⟩
      refine (Update.delivery_runs _ timing hsynced).weaken ?_
      rintro r u _ ⟨size, -, -, hruns, -⟩
      refine ⟨List.mem_append_left u hfound, fun honest e hr => ?_⟩
      subst hr
      exact delivery_fails hruns fun x hx => honest x (List.mem_append_right t hx)
    · rintro _ _ _ ⟨hr, -⟩
      cases hr

/-- An update that listens to an address above the mask finds nobody. -/
theorem body_deaf {reading : AddressReading} {run : Run σ Channel} {opened : σ}
    (hport : run.session.port = port)
    (hready : run.command.address = device ∧ run.command.encrypted = false)
    (hopen : SerialHost.openPort port commandBaud run.session.line.host = (.ok (), opened))
    (hmask : 0x80 ≤ device) :
    Ends (Update.body timing image reading) run fun r _ _ =>
      (∃ cut, r = .error (.unfinished cut)) ∨
        ∃ e, r = .error (.failed e) ∧ e.kind = .noValidator := by
  refine body_opens (P := fun r _ => (∃ cut, r = .error (.unfinished cut)) ∨
    ∃ e, r = .error (.failed e) ∧ e.kind = .noValidator) hport hready hopen ?_ ?_
  · exact fun _ _ _ h => h
  · intro run' hstands _ _ _
    refine Ends.andThen (findValidator_deaf hstands hmask) ?_ ?_
    · rintro _ _ _ (⟨_, hr⟩ | ⟨_, hr, -⟩) <;> cases hr
    · exact fun _ _ _ h => h

/-- An update whose sync packet is answered by the device at the low bits of its address: below
the mask it finds the device, and then never reports that there is none, unless the port itself
does so. Above the mask the answer is not heard, and the update ends without a device. -/
theorem update_finds_below_mask (u : Updater σ Channel) (image : Image) (port address : String)
    {opened : σ} {answer : Passage}
    (hopen : SerialHost.openPort port commandBaud u.line.host = (.ok (), opened))
    (hanswer : answer.packet =
      ⟨Channel.seqAddr true (AddressReading.ofString address).value, [0xF0]⟩)
    (hreplying : Replying u.line.patience u.timing.commandTimeout
      (Channel.syncPacket (AddressReading.ofString address).value) answer.bytes
      (max 1 u.timing.commandRetries.toNat) opened)
    (hlong : answer.bytes.length ≤ u.line.patience) :
    ((AddressReading.ofString address).value < 0x80 → ∃ trace : Trace,
      (u.update image port address).2.line.history = u.line.history ++ trace ∧
      .noted .validatorFound ∈ trace ∧
      ((∀ x ∈ trace, x.Honest) → ∀ e, (u.update image port address).1 = .error (.failed e) →
        e.kind ≠ .noValidator)) ∧
    (0x80 ≤ (AddressReading.ofString address).value →
      (∃ cut, (u.update image port address).1 = .error (.unfinished cut)) ∨
        ∃ e, (u.update image port address).1 = .error (.failed e) ∧ e.kind = .noValidator) := by
  constructor
  · intro hlow
    have hsame : answer.packet.address = (AddressReading.ofString address).value := by
      have hreply := Channel.address_reply (AddressReading.ofString address).value [0xF0]
      rw [UInt8.lt_iff_toNat_lt] at hlow
      have hbound : (0x80 : UInt8).toNat = 128 := rfl
      rw [hanswer]
      apply UInt8.toNat.inj
      omega
    have hlisten := answer.listened
    rw [hsame] at hlisten
    have hstatus : answer.packet.status? = some .ok := by
      rw [hanswer]
      rfl
    obtain ⟨t, last, ⟨hfound, hblame⟩, -, hleads⟩ := update_ends u image port address
      (body_finds rfl ⟨rfl, rfl⟩ hopen hreplying hstatus hlong hlisten)
    refine ⟨t ++ last, hleads.history, List.mem_append_left last hfound, fun honest => ?_⟩
    exact hblame fun x hx => honest x (List.mem_append_left last hx)
  · intro hhigh
    obtain ⟨t, last, hdeaf, -⟩ :=
      update_ends u image port address (body_deaf rfl ⟨rfl, rfl⟩ hopen hhigh)
    exact hdeaf

end Updates

namespace Wire

variable {w : Wire} {patience : Nat}

/-- What lies in the queue can be read, whatever the deadline is. -/
theorem comes (hfaults : w.faults = []) (hpos : 0 < patience) {bytes rest : Bytes}
    (hqueue : w.queue = bytes ++ rest) (deadline : Nat) : Comes patience deadline bytes w := by
  induction bytes generalizing w with
  | nil => trivial
  | cons b bytes ih =>
    obtain ⟨n, rfl⟩ : ∃ n, patience = n + 1 := ⟨patience - 1, by omega⟩
    have hq : w.queue = b :: (bytes ++ rest) := hqueue
    refine ⟨{ w.count .read with queue := bytes ++ rest }, ?_, ih hfaults rfl⟩
    have hread : (ByteSource.read 1 w : Except IoError Bytes × Wire) =
        (.ok [b], { w.count .read with queue := bytes ++ rest }) := by
      simp [ByteSource.read, read, answer_of_faults_nil hfaults, count, hq]
    simp [SerialHost.readWithin, ByteSource.readWithin, ByteSource.await, ByteSource.readByte,
      ByteSource.available, available, hq, hread]

/-- A wire with a scripted reply answers the first packet that goes out. -/
theorem replying (hfaults : w.faults = []) (hlimit : w.writeLimit = none) (hqueue : w.queue = [])
    {bytes packet : Bytes} {more : List Bytes} (hreplies : w.replies = bytes :: more)
    (hpacket : packet ≠ []) (hpos : 0 < patience) (timeout left : Nat) :
    Replying patience timeout packet bytes (left + 1) w := by
  let written : Wire := (w.count .write).log (.wrote packet)
  let answered : Wire := { written.count .flush with queue := bytes, replies := more }
  have hwrite : SerialHost.write packet w = (.ok packet.length, written) := by
    have hcount : (w.count .write).writeLimit = none := hlimit
    simp only [SerialHost.write, write, answer_of_faults_nil hfaults, hcount, written]
  have hflush : SerialHost.flush written = (.ok (), answered) := by
    have hfaults' : written.faults = [] := hfaults
    have hqueue' : (written.count .flush).queue = [] := hqueue
    have hreplies' : (written.count .flush).replies = bytes :: more := hreplies
    simp only [SerialHost.flush, flush, answer_of_faults_nil hfaults', hqueue', hreplies', answered]
    rfl
  obtain ⟨n, hn⟩ : ∃ n, packet.length = n + 1 :=
    Nat.exists_eq_succ_of_ne_zero (fun h => hpacket (List.eq_nil_of_length_eq_zero h))
  have htaken : Takes packet w written := by
    refine .part hpacket (hn ▸ hwrite) ?_
    rw [← hn, List.drop_length]
    exact .nothing written
  have hfaults' : answered.faults = [] := hfaults
  have hqueue' : answered.queue = bytes ++ [] := (List.append_nil bytes).symm
  exact .now htaken hflush rfl (comes hfaults' hpos hqueue' _)

end Wire

/-- A wire on which the device at the low bits of an address answers a sync packet. -/
def Wire.hailed (address : UInt8) : Wire where
  replies := [Packet.framed ⟨Channel.seqAddr true address, [0xF0]⟩]

/-- The device at address 16 is found. -/
theorem update_finds_below_mask_sixteen :
    let device := (AddressReading.ofString "16").value
    let u : Updater Wire Channel := ⟨⟨.hailed device, [], 20⟩, .new, {}⟩
    device < 0x80 ∧ ∃ trace : Trace,
      (u.update .small "COM1" "16").2.line.history = u.line.history ++ trace ∧
      .noted .validatorFound ∈ trace ∧
      ((∀ x ∈ trace, x.Honest) → ∀ e, (u.update .small "COM1" "16").1 = .error (.failed e) →
        e.kind ≠ .noValidator) := by
  intro device u
  have hlow : device < 0x80 := by decide +kernel
  let answer : Passage :=
    ⟨[], ⟨Channel.seqAddr true device, [0xF0]⟩, _, by simp, Packet.encode_eq (by simp)⟩
  let opened : Wire := (Wire.openPort "COM1" commandBaud (.hailed device)).2
  have hopen : SerialHost.openPort "COM1" commandBaud u.line.host = (.ok (), opened) := rfl
  have hreplying : Replying 20 1000 (Channel.syncPacket device) answer.bytes 3 opened :=
    Wire.replying rfl rfl rfl rfl (List.cons_ne_nil _ _) (by decide) 1000 2
  have hlong : answer.bytes.length ≤ 20 := by decide +kernel
  exact ⟨hlow, (update_finds_below_mask u .small "COM1" "16" hopen rfl hreplying hlong).1 hlow⟩

/-- The device that an update asks at address 200 answers, and the update reports that there
is none. -/
theorem update_deaf_two_hundred :
    let device := (AddressReading.ofString "200").value
    let u : Updater Wire Channel := ⟨⟨.hailed device, [], 20⟩, .new, { commandTimeout := 1 }⟩
    (∃ opened, SerialHost.openPort "COM1" commandBaud u.line.host = (.ok (), opened) ∧
      Replying 20 1 (Channel.syncPacket device)
        (Packet.framed ⟨Channel.seqAddr true device, [0xF0]⟩) 3 opened) ∧
      ∃ e, (u.update .small "COM1" "200").1 = .error (.failed e) ∧ e.kind = .noValidator := by
  intro device u
  have hreplying : Replying 20 1 (Channel.syncPacket device)
      (Packet.framed ⟨Channel.seqAddr true device, [0xF0]⟩) 3
      (Wire.openPort "COM1" commandBaud (.hailed device)).2 :=
    Wire.replying rfl rfl rfl rfl (List.cons_ne_nil _ _) (by decide) 1 2
  have hfails : (u.update .small "COM1" "200").1 =
      .error (.failed (.syncFailed (.noResponse 200 3))) := by decide +kernel
  exact ⟨⟨_, rfl, hreplying⟩, _, hfails, rfl⟩

end SspUpdate
