import Mathlib.Control.Monad.Basic
import SspUpdate.Proofs.Milestones
import SspUpdate.Wire

/-!
# Delivery

An update that succeeds has delivered the image, whatever the host did in
between: each stage went out whole and in order at the transfer rate, every
byte heard back during the stages was the one expected there, and the device
answered again at the end.
-/

namespace SspUpdate

/-- The trace of an update that delivered the image, taken apart at its switches of
the rate and the closings after them. -/
structure Delivered (image : Image) (port : String) (address : UInt8) (size : Nat)
    (start ram between main wait trace : Trace) : Prop where
  parts : trace = start ++ .switched image.header.transferBaud (.ok ()) ::
    (ram ++ .closed port (.ok ()) :: (between ++
      .switched image.header.transferBaud (.ok ()) :: (main ++ wait)))
  closed : ∃ answer rest, wait = .closed port answer :: rest
  /-- No other switch was made. -/
  unswitched : start.Unswitched ∧ between.Unswitched ∧ wait.Unswitched
  traffic : ram.Traffic ∧ main.Traffic
  openings : trace.OpenedAt commandBaud
  /-- The size of the blocks is the one the device told before. -/
  asked : Channel.Exchanged (Channel.programPacket address) address (fun reply =>
    reply.status? = some .ok ∧ RamStage.blockSize? reply.data = some size) start
  told : Channel.Exchanged (Channel.headerPacket address image) address
    (fun reply => reply.status? = some .ok) start
  ramSent : ram.sent = image.ramStage
  ramHeard : ram.heard = [image.ramStage.checksum]
  mainSent : main.sent = image.handshakeByte :: image.headerBytes ++
    (image.mainStage.fullBlocks size).flatMap (fun block => block ++ [block.checksum]) ++
    image.mainStage.tail size
  mainHeard : main.heard =
    Transfer.ack :: Transfer.ack :: (image.mainStage.fullBlocks size).map Bytes.checksum ++
      (if image.mainStage.tail size = [] then [] else [Bytes.checksum (image.mainStage.tail size)])

/-- The last exchange is an accepted synchronisation, over a port opened in this trace. -/
def CameBack (port : String) (address : UInt8) (wait : Trace) : Prop :=
  ∃ before exch after reply, wait = before ++ (exch ++ after) ∧ Resync.Held port before ∧
    Channel.Answered (Channel.syncPacket address) address reply exch ∧
    reply.status? = some .ok ∧ after.sent = [] ∧ after.heard = []

section Runs

variable {σ : Type} [SerialHost σ] {image : Image} {timing : Timing} {port : String}
  {address : UInt8} {patience size : Nat}

theorem Session.Finishes.quiet {last : Trace} (h : Session.Finishes last) :
    last.Steady commandBaud ∧ last.sent = [] ∧ last.heard = [] := by
  cases h <;> exact ⟨⟨by simp, by simp⟩, rfl, rfl⟩

/-- The stages that are through deliver the image, whatever comes of the wait. -/
theorem Runs.delivered {r : Except Halt Unit} {start t₁ t₂ pause wait after : Trace}
    (hintro : Runs (Update.introduction (Channel.conversation (σ := σ) address image) port size)
      (.ok ()) start)
    (hram : Runs (Update.ramTransfer timing image) (.ok ()) t₁)
    (hmain : Runs (Update.mainTransfer timing image port size) (.ok ()) t₂) (hpause : pause.Silent)
    (hwait : Resync.Resyncs port (Channel.conversation (σ := σ) address image).sync patience r wait)
    (hafter : after.Steady commandBaud) :
    ∃ start' ram between main, Delivered image port address size start' ram between main
      (wait ++ after) (start ++ (t₁ ++ (t₂ ++ (pause ++ (wait ++ after))))) := by
  obtain ⟨quiet₁, ram, rfl, hquiet₁, hramTraffic, hramSent, hramHeard⟩ := hram.ramTaken
  obtain ⟨quiet₂, between, main, rfl, hquiet₂, hbetween, -, -, hplays⟩ := hmain.mainTaken
  have hintroduced := hintro.introduced
  obtain ⟨hmainSent, hmainHeard⟩ := hplays.whole
  obtain ⟨answer, rest, hclosed⟩ := hwait.closes
  have hsteady : wait.Steady commandBaud := hwait.waits.steady fun _ _ hs => hs.traffic
  refine ⟨start ++ quiet₁, ram ++ quiet₂, between, main ++ pause, ?_⟩
  constructor
  · simp
  · exact ⟨answer, rest ++ after, by rw [hclosed, List.cons_append]⟩
  · refine ⟨?_, hbetween.unswitched, ?_⟩
    · exact (hintroduced.steady.append (hquiet₁.traffic.steady _)).unswitched
    · exact (hsteady.append hafter).unswitched
  · exact ⟨hramTraffic.append hquiet₂.traffic, hplays.traffic.append hpause.traffic⟩
  · have hopened : ∀ {u : Trace}, u.Traffic → u.OpenedAt commandBaud :=
      fun hu => (hu.steady _).openedAt
    simp [hintroduced.steady.openedAt, hopened hquiet₁.traffic, hopened hramTraffic,
      hopened hquiet₂.traffic, hbetween.openedAt, hopened hplays.traffic, hopened hpause.traffic,
      hsteady.openedAt, hafter.openedAt]
  · exact hintroduced.asked.left quiet₁
  · exact hintroduced.told.left quiet₁
  · rw [Trace.sent_append, hquiet₂.sent, List.append_nil, hramSent]
  · rw [Trace.heard_append, hquiet₂.heard, List.append_nil, hramHeard]
  · rw [Trace.sent_append, hpause.sent, List.append_nil, hmainSent, MainStage.data_turns]
  · rw [Trace.heard_append, hpause.heard, List.append_nil, hmainHeard, MainStage.reply_turns]

/-- A run through the whole course delivers the image, and the device comes back. -/
theorem Runs.delivers {t last : Trace}
    (h : Runs (Update.course (Channel.conversation (σ := σ) address image) timing port patience
      size) (.ok ()) t) (hlast : Session.Finishes last) :
    ∃ start ram between main wait, CameBack port address wait ∧
      Delivered image port address size start ram between main wait (t ++ last) := by
  obtain ⟨_, hr, -⟩ | ⟨start, t, rfl, hintro, h₁⟩ := h.split
  · cases hr
  obtain ⟨_, hr, -⟩ | ⟨t₁, t, rfl, hram, h₂⟩ := h₁.split
  · cases hr
  obtain ⟨_, hr, -⟩ | ⟨t₂, t, rfl, hmain, h₃⟩ := h₂.split
  · cases hr
  obtain ⟨pause, wait, t, rfl, hpause, hwait, h₄⟩ := h₃.first
  cases h₄ with
  | done hend =>
    obtain ⟨hsteady, hsent, hheard⟩ := hlast.quiet
    obtain ⟨start', ram, between, main, hdelivered⟩ := Runs.delivered hintro hram hmain hpause hwait
      ((hend.traffic.steady _).append hsteady)
    refine ⟨start', ram, between, main, wait ++ (t ++ last), ?_, ?_⟩
    · obtain ⟨before, exch, n, rfl, hheld, hsync⟩ := hwait.returned rfl
      obtain ⟨reply, hreply, hstatus⟩ := hsync.answered .ok rfl
      refine ⟨before, exch, .noted (.resynced n) :: (t ++ last), reply, by simp, hheld, hreply,
        hstatus, ?_, ?_⟩
      · simp [Entry.sent, hend.sent, hsent]
      · simp [Entry.heard?, hend.heard, hheard]
    · simpa using hdelivered

end Runs

/-- The parts of an image that are sent make up the image behind its header, each byte once. -/
theorem Image.payload (image : Image) (size : Nat) :
    image.ramStage ++ (image.mainStage.fullBlocks size).flatten ++ image.mainStage.tail size =
      image.bytes.drop headerSize := by
  rw [List.append_assoc, Bytes.flatten_fullBlocks_append_tail, ramStage_append_mainStage]

/-- No false success: on every host, an update over the packet channel that succeeds has
delivered the image in blocks of the size that the device told, and the device came back. -/
theorem update_delivers {σ : Type} [SerialHost σ] (u : Updater σ Channel) (image : Image)
    (port address : String) (h : (u.update image port address).1 = .ok ()) :
    ∃ size start ram between main wait trace,
      (u.update image port address).2.line.history = u.line.history ++ trace ∧
      Delivered image port (AddressReading.ofString address).value size start ram between main
        wait trace ∧
      CameBack port (AddressReading.ofString address).value wait ∧
      image.ramStage ++ (image.mainStage.fullBlocks size).flatten ++ image.mainStage.tail size =
        image.bytes.drop headerSize := by
  obtain ⟨size, t, last, -, -, hruns, hlast, hlead⟩ := update_runs
    (Channel.conversation (AddressReading.ofString address).value image) u port address ⟨rfl, rfl⟩
  rw [h] at hruns
  obtain ⟨start, ram, between, main, wait, hback, hdelivered⟩ := hruns.delivers hlast
  exact ⟨size, start, ram, between, main, wait, t ++ last, hlead.history, hdelivered, hback,
    image.payload size⟩

/-- A wire whose scripted replies take an update of the small image through, in blocks of two. -/
def Wire.rehearsed : Wire where
  replies :=
    let reply (sequence : Bool) (data : Bytes) := Packet.framed ⟨Channel.seqAddr sequence 0, data⟩
    [reply true [0xF0], reply false [0xF0, 2, 0], reply true [0xF0], [3], [0x32], [0x32], [], [7],
      [5], reply true [0xF0]]

theorem update_delivers_small :
    let u : Updater Wire Channel := ⟨⟨Wire.rehearsed, [], 20⟩, .new, {}⟩
    ∃ size start ram between main wait trace,
      (u.update .small "COM1" "0").2.line.history = u.line.history ++ trace ∧
      Delivered .small "COM1" (AddressReading.ofString "0").value size start ram between main
        wait trace ∧
      CameBack "COM1" (AddressReading.ofString "0").value wait ∧
      Image.small.ramStage ++ (Image.small.mainStage.fullBlocks size).flatten ++
        Image.small.mainStage.tail size = Image.small.bytes.drop headerSize :=
  update_delivers ⟨⟨Wire.rehearsed, [], 20⟩, .new, {}⟩ .small "COM1" "0" (by decide +kernel)

end SspUpdate
