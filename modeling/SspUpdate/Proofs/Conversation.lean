import SspUpdate.Proofs.Exchange
import SspUpdate.Proofs.Layout

/-!
# Conversations

An update is written for any command channel. A `Conversation` is what is
known of one: how its synchronisation, the program command and the header
command may end, and over which traces. What an update does is then followed
once for all channels, and read for the packet channel afterwards.
-/

namespace SspUpdate

theorem Status.isOk_iff {s : Status} : s.isOk = true ↔ s = .ok := by simp [isOk]

/-- The status in a reply, if it has one. -/
def Packet.status? (p : Packet) : Option Status := p.data.head?.map Status.ofByte

/-- How a channel may exchange the commands of an update. -/
structure Conversation (σ κ : Type) [SerialHost σ] [CommandChannel σ κ] (image : Image) where
  /-- Holds of channel and command before every synchronisation. -/
  Ready : κ → Command → Prop
  /-- Holds after an accepted synchronisation. -/
  Synced : κ → Command → Prop
  /-- Holds after the block size was told. -/
  Asked : κ → Command → Prop
  sync : Except Halt Status → Trace → Prop
  program : Except Halt Nat → Trace → Prop
  header : Except Halt Unit → Trace → Prop
  sync_ends : ∀ link : Link σ κ, Ready link.channel link.command →
    Ends CommandChannel.sync link fun r t link' => sync r t ∧ Ready link'.channel link'.command ∧
      (r = .ok .ok → Synced link'.channel link'.command)
  program_ends : ∀ link : Link σ κ, Synced link.channel link.command →
    Ends RamStage.requestProgram link fun r t link' => program r t ∧
      ∀ n, r = .ok n → Asked link'.channel link'.command
  header_ends : ∀ link : Link σ κ, Asked link.channel link.command →
    Ends (RamStage.sendHeader image) link fun r t link' => header r t ∧
      (r = .ok () → Ready link'.channel link'.command)
  sync_traffic : ∀ r t, sync r t → t.Traffic
  fits : ∀ n t, program (.ok n) t → 0 < n ∧ n < 65536

section AnyChannel

variable {σ κ : Type} [SerialHost σ] [CommandChannel σ κ]

theorem RamStage.blockSize?_bounds {response : Bytes} {n : Nat}
    (h : blockSize? response = some n) : 0 < n ∧ n < 65536 := by
  unfold blockSize? at h
  split at h
  · next low high _ =>
    have hlow := low.toNat_lt
    have hhigh := high.toNat_lt
    dsimp only at h
    split at h
    · next hpos =>
      cases h
      simp only [Bytes.littleEndian] at hpos ⊢
      omega
    · cases h
  · cases h

/-- Asking for the block size ends as the channel's answer says. -/
theorem requestProgram_ends {P : Except Halt Status → Trace → Link σ κ → Prop} {link : Link σ κ}
    (h : Ends CommandChannel.send
      { link with command := { link.command with data := RamStage.programCommand } } P) :
    Ends RamStage.requestProgram link fun r t link' => ∃ answer, P answer t link' ∧
      (∀ n, r = .ok n ↔ answer = .ok .ok ∧ RamStage.blockSize? link'.command.response = some n) ∧
      ∀ e, r = .error (.failed e) → e.kind = .sendProgramCmd := by
  refine Ends.change rfl (Ends.tried h ?_ ?_ ?_)
  · intro status t link' hp
    rw [← List.append_nil t] at hp
    dsimp only
    split
    · next hok =>
      have hanswer : (Except.ok status : Except Halt Status) = .ok .ok :=
        congrArg Except.ok (Status.isOk_iff.mp hok)
      refine Ends.read ?_
      split
      · next n hn =>
        refine Ends.value ⟨_, hp, fun m => ?_, nofun⟩
        rw [hn, Except.ok.injEq, Option.some.injEq, and_iff_right hanswer]
      · next hn =>
        exact Ends.failed ⟨_, hp, fun m => ⟨nofun, fun h => (by cases hn.symm.trans h.2)⟩,
          fun e hr => by cases hr; rfl⟩
    · next hno =>
      refine Ends.failed ⟨_, hp, fun m => ⟨nofun, fun h => ?_⟩, fun e hr => by cases hr; rfl⟩
      exact absurd (Status.isOk_iff.mpr (Except.ok.inj h.1)) hno
  · intro e t link' hp
    rw [← List.append_nil t] at hp
    exact Ends.failed ⟨_, hp, fun m => ⟨nofun, nofun⟩, fun e hr => by cases hr; rfl⟩
  · exact fun _ t link' hp => ⟨_, hp, fun m => ⟨nofun, nofun⟩, nofun⟩

/-- Telling the header ends as the channel's answer says. -/
theorem sendHeader_ends {image : Image} {P : Except Halt Status → Trace → Link σ κ → Prop}
    {link : Link σ κ}
    (h : Ends CommandChannel.send
      { link with command := { link.command with data := image.headerBytes } } P) :
    Ends (RamStage.sendHeader image) link fun r t link' => ∃ answer, P answer t link' ∧
      (r = .ok () ↔ answer = .ok .ok) ∧
      ∀ e, r = .error (.failed e) → e.kind = .invalidFileType := by
  refine Ends.change rfl (Ends.tried h ?_ ?_ ?_)
  · intro status t link' hp
    rw [← List.append_nil t] at hp
    dsimp only
    split
    · next hok =>
      have hanswer : (Except.ok status : Except Halt Status) = .ok .ok :=
        congrArg Except.ok (Status.isOk_iff.mp hok)
      exact Ends.value ⟨_, hp, ⟨fun _ => hanswer, fun _ => rfl⟩, nofun⟩
    · next hno =>
      refine Ends.failed ⟨_, hp, ⟨nofun, fun h => ?_⟩, fun e hr => by cases hr; rfl⟩
      exact absurd (Status.isOk_iff.mpr (Except.ok.inj h)) hno
  · intro e t link' hp
    rw [← List.append_nil t] at hp
    exact Ends.failed ⟨_, hp, ⟨nofun, nofun⟩, fun e hr => by cases hr; rfl⟩
  · exact fun _ t link' hp => ⟨_, hp, ⟨nofun, nofun⟩, nofun⟩

end AnyChannel

namespace Channel

/-- The packets of an update to the device at `address`. -/
def syncPacket (address : UInt8) : Bytes := Packet.framed ⟨seqAddr true address, [syncCode]⟩

def programPacket (address : UInt8) : Bytes :=
  Packet.framed ⟨seqAddr false address, RamStage.programCommand⟩

def headerPacket (address : UInt8) (image : Image) : Bytes :=
  Packet.framed ⟨seqAddr true address, image.headerBytes⟩

/-- A call sends copies of a packet, and gives a value only from a reply to the last of them. -/
structure Calls {α : Type} (packet : Bytes) (address : UInt8) (means : α → Packet → Prop)
    (r : Except Halt α) (t : Trace) : Prop where
  traffic : t.Traffic
  sent : CopiesOf packet t.sent
  answered : ∀ a, r = .ok a → ∃ reply, Answered packet address reply t ∧ means a reply

theorem Talks.accepts {σ : Type} {packet : Bytes} {link link' : Link σ Channel} {status : Status}
    {t : Trace} (h : Talks packet link (.ok status) t link') : ∃ reply,
    Answered packet link.command.address reply t ∧ reply.status? = some status ∧
      link'.channel = ⟨!link.channel.sequence⟩ ∧
      link'.command = { link.command with response := reply.data } := by
  obtain ⟨reply, b, hreply, hb, rfl, hchannel, hcommand⟩ := h.accepted status rfl
  refine ⟨reply, hreply, ?_, hchannel, hcommand⟩
  rw [Packet.status?, hb]
  rfl

/-- A call over the packet channel keeps the address and stays in the clear. -/
theorem Talks.keeps {σ : Type} {packet : Bytes} {link link' : Link σ Channel}
    {r : Except Halt Status} {t : Trace} (h : Talks packet link r t link') :
    link'.command.address = link.command.address ∧
      link'.command.encrypted = link.command.encrypted := by
  cases r with
  | ok status =>
    obtain ⟨reply, -, -, -, hcommand⟩ := h.accepts
    rw [hcommand]
    exact ⟨rfl, rfl⟩
  | error e =>
    rw [(h.kept e rfl).2]
    exact ⟨rfl, rfl⟩

variable {σ : Type} [SerialHost σ]

/-- The conversation with the device at `address`: the flag is set for the sync, not set
for the program command, and set for the header. -/
def conversation (address : UInt8) (image : Image) : Conversation σ Channel image where
  Ready _ command := command.address = address ∧ command.encrypted = false
  Synced channel command :=
    channel = ⟨false⟩ ∧ command.address = address ∧ command.encrypted = false
  Asked channel command :=
    channel = ⟨true⟩ ∧ command.address = address ∧ command.encrypted = false
  sync := Calls (syncPacket address) address fun status reply => reply.status? = some status
  program r t :=
    Calls (programPacket address) address (fun n reply =>
      reply.status? = some .ok ∧ RamStage.blockSize? reply.data = some n) r t ∧
    ∀ e, r = .error (.failed e) → e.kind = .sendProgramCmd
  header r t :=
    Calls (headerPacket address image) address (fun _ reply => reply.status? = some .ok) r t ∧
    ∀ e, r = .error (.failed e) → e.kind = .invalidFileType
  sync_ends link h := by
    obtain ⟨rfl, he⟩ := h
    refine (sync_talks link he).weaken fun r t link' h => ⟨⟨h.traffic, h.sent, ?_⟩, ?_, ?_⟩
    · rintro status rfl
      obtain ⟨reply, hreply, hstatus, -⟩ := h.accepts
      exact ⟨reply, hreply, hstatus⟩
    · exact ⟨h.keeps.1, h.keeps.2.trans he⟩
    · rintro rfl
      obtain ⟨reply, -, -, hchannel, -⟩ := h.accepts
      exact ⟨hchannel, h.keeps.1, h.keeps.2.trans he⟩
  program_ends link h := by
    obtain ⟨line, channel, command⟩ := link
    obtain ⟨rfl, rfl, he⟩ := h
    have hlength : RamStage.programCommand.length ≤ 255 := by decide
    refine (requestProgram_ends (transact_talks
      ⟨line, ⟨false⟩, { command with data := RamStage.programCommand }⟩ he hlength)).weaken ?_
    rintro r t link' ⟨answer, h, hok, hkind⟩
    refine ⟨⟨⟨h.traffic, h.sent, ?_⟩, hkind⟩, ?_⟩
    · rintro n rfl
      obtain ⟨rfl, hsize⟩ := (hok n).mp rfl
      obtain ⟨reply, hreply, hstatus, -, hcommand⟩ := h.accepts
      rw [hcommand] at hsize
      exact ⟨reply, hreply, hstatus, hsize⟩
    · rintro n rfl
      obtain ⟨rfl, -⟩ := (hok n).mp rfl
      obtain ⟨reply, -, -, hnext, -⟩ := h.accepts
      exact ⟨hnext, h.keeps.1, h.keeps.2.trans he⟩
  header_ends link h := by
    obtain ⟨line, channel, command⟩ := link
    obtain ⟨rfl, rfl, he⟩ := h
    have hlength : image.headerBytes.length ≤ 255 := by rw [image.length_headerBytes]; decide
    refine (sendHeader_ends (transact_talks
      ⟨line, ⟨true⟩, { command with data := image.headerBytes }⟩ he hlength)).weaken ?_
    rintro r t link' ⟨answer, h, hok, hkind⟩
    refine ⟨⟨⟨h.traffic, h.sent, ?_⟩, hkind⟩, fun _ => ⟨h.keeps.1, h.keeps.2.trans he⟩⟩
    rintro _ rfl
    obtain rfl := hok.mp rfl
    obtain ⟨reply, hreply, hstatus, -⟩ := h.accepts
    exact ⟨reply, hreply, hstatus⟩
  sync_traffic _ _ h := h.traffic
  fits n t h := by
    obtain ⟨reply, -, -, hsize⟩ := h.1.answered n rfl
    exact RamStage.blockSize?_bounds hsize

end Channel

end SspUpdate
