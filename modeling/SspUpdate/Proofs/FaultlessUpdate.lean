import Mathlib.Data.List.Forall2
import SspUpdate.Proofs.Course
import SspUpdate.Proofs.FaultlessWire

/-!
# Updates over a faultless wire

With a channel that answers for the device, the wire only carries the bare
transfers. An update is then one list of turns, the RAM stage and after it the
main stage, that faces the receive queue. So it succeeds exactly when the
queue begins with the expected answers, and otherwise nothing is written
behind the turn whose answer was missing or wrong.
-/

namespace SspUpdate

/-- A phase does to the queue of a faultless wire what the turns do. -/
def Phase.Faces (patience : Nat) (p : Phase) (us : List Turn) : Prop :=
  ∀ {w w' : Wire} {r : Except Halt Unit} {t : Trace}, p r t → w.Faultless → Path patience w t w' →
    SspUpdate.Faces us w.queue r t.sent w'.queue

section Phases

variable {patience : Nat}

/-- A phase that can only fail by a failing call, and moves no byte, is no turn. -/
theorem Phase.faces_none {p : Phase} (h : ∀ r t, p r t → (∀ e ∈ t, ¬ e.Fails) →
    r = .ok () ∧ t.sent = [] ∧ t.heard = []) : p.Faces patience [] := by
  intro w w' r t hp hw hpath
  obtain ⟨hpass, hall⟩ := hpath.passes hw
  obtain ⟨rfl, hsent, hheard⟩ := h r t hp fun e he => (hall e he).1
  have hqueue := hpass.queue
  rw [hheard, List.nil_append] at hqueue
  rw [hsent, hqueue]
  exact .none _

theorem opens_faces (port : String) (baud : UInt32) :
    Phase.Faces patience (Session.Opens port baud) [] := by
  refine Phase.faces_none fun r t h hfair => ?_
  cases h with
  | opened => exact ⟨rfl, rfl, rfl⟩
  | failed e => exact absurd (.opening port baud e) (hfair _ List.mem_cons_self)

theorem switches_faces (baud : UInt32) : Phase.Faces patience (Session.Switches baud) [] := by
  refine Phase.faces_none fun r t h hfair => ?_
  cases h with
  | switched => exact ⟨rfl, rfl, rfl⟩
  | failed e => exact absurd (.switching baud e) (hfair _ List.mem_cons_self)

theorem reopens_faces (port : String) (baud : UInt32) :
    Phase.Faces patience (Session.Reopens port baud true) [] := by
  refine Phase.faces_none fun r t h hfair => ?_
  cases h with
  | unclosed closing =>
    cases closing
    exact absurd (.closing _ _) (hfair _ List.mem_cons_self)
  | unopened closing settled opening =>
    cases opening
    next e => exact absurd (.opening port baud e) (hfair _ (by simp))
  | reopened closing settled opening =>
    cases closing
    cases opening
    simp [settled.sent, settled.heard, Entry.sent, Entry.heard?]

theorem plays_faces {us : List Turn} (h : ∀ u ∈ us, u.limit + 2 ≤ patience) :
    Phase.Faces patience (Plays us) us := fun hp hw hpath => hp.faces h hw hpath

/-- The phases of a run, one after the other, face the queue as all their turns. -/
theorem Runs.faces {ps : List Phase} {turns : List (List Turn)}
    (hps : List.Forall₂ (Phase.Faces patience) ps turns) {r : Except Halt Unit} {t : Trace}
    (h : Runs ps r t) {w w' : Wire} (hw : w.Faultless) (hpath : Path patience w t w') :
    Faces turns.flatten w.queue r t.sent w'.queue := by
  have hsilent : ∀ {pause : Trace} {w w' : Wire}, pause.Silent → w.Faultless →
      Path patience w pause w' → w'.Faultless ∧ w.queue = w'.queue := by
    intro pause w w' hs hw hpath
    have hpass := (hpath.passes hw).1
    exact ⟨hpass.faultless, by simpa [hs.heard] using hpass.queue⟩
  induction h generalizing turns w with
  | done h =>
    cases hps
    rw [h.sent, (hsilent h hw hpath).2]
    exact .none _
  | next silent head rest ih =>
    cases hps with
    | cons hp hps =>
      obtain ⟨w₁, hpath₁, hpath⟩ := hpath.split
      obtain ⟨w₂, hpath₂, hpath₃⟩ := hpath.split
      obtain ⟨hw₁, hqueue⟩ := hsilent silent hw hpath₁
      have hrest := ih hps (hpath₂.passes hw₁).1.faultless hpath₃
      rw [Trace.sent_append, Trace.sent_append, silent.sent, List.nil_append, hqueue]
      exact (hp head hw₁ hpath₂).append hrest
  | stop silent head =>
    cases hps with
    | cons hp hps =>
      obtain ⟨w₁, hpath₁, hpath₂⟩ := hpath.split
      obtain ⟨hw₁, hqueue⟩ := hsilent silent hw hpath₁
      rw [Trace.sent_append, silent.sent, List.nil_append, hqueue]
      exact (hp head hw₁ hpath₂).extend _

end Phases

/-- A channel that answers for the device, without a line: every synchronisation and
both commands of an update are accepted, and the block size is `size`. -/
structure Obliging (σ κ : Type) [SerialHost σ] [CommandChannel σ κ] (image : Image) (size : Nat) :
    Prop where
  sync : ∀ link : Link σ κ, ∃ channel command,
    CommandChannel.sync link = .ok .ok ⟨link.line, channel, command⟩
  program : ∀ link : Link σ κ, link.command.data = RamStage.programCommand → ∃ channel command,
    CommandChannel.send link = .ok .ok ⟨link.line, channel, command⟩ ∧
      RamStage.blockSize? command.response = some size
  header : ∀ link : Link σ κ, link.command.data = image.headerBytes → ∃ channel command,
    CommandChannel.send link = .ok .ok ⟨link.line, channel, command⟩

namespace Obliging

variable {σ κ : Type} [SerialHost σ] [CommandChannel σ κ] {image : Image} {size : Nat}

/-- What is known of such a channel: nothing goes wrong, and nothing happens on the line. -/
def conversation (h : Obliging σ κ image size) : Conversation σ κ image where
  Ready _ _ := True
  Synced _ _ := True
  Asked _ _ := True
  sync r t := r = .ok .ok ∧ t = []
  program r t := r = .ok size ∧ t = [] ∧ 0 < size ∧ size < 65536
  header r t := r = .ok () ∧ t = []
  sync_ends link _ := by
    obtain ⟨channel, command, he⟩ := h.sync link
    exact ⟨.ok .ok, [], _, he, .refl _, ⟨rfl, rfl⟩, trivial, fun _ => trivial⟩
  program_ends link _ := by
    obtain ⟨channel, command, he, hs⟩ :=
      h.program { link with command := { link.command with data := RamStage.programCommand } } rfl
    have hsend : Ends CommandChannel.send
        { link with command := { link.command with data := RamStage.programCommand } }
        fun r t link' => r = .ok .ok ∧ t = [] ∧ link'.command = command :=
      ⟨.ok .ok, [], _, he, .refl _, rfl, rfl, rfl⟩
    refine (requestProgram_ends hsend).weaken ?_
    rintro r t link' ⟨answer, ⟨rfl, rfl, rfl⟩, hr, -⟩
    exact ⟨⟨(hr size).mpr ⟨rfl, hs⟩, rfl, RamStage.blockSize?_bounds hs⟩, fun _ _ => trivial⟩
  header_ends link _ := by
    obtain ⟨channel, command, he⟩ :=
      h.header { link with command := { link.command with data := image.headerBytes } } rfl
    have hsend : Ends CommandChannel.send
        { link with command := { link.command with data := image.headerBytes } }
        fun r t _ => r = .ok .ok ∧ t = [] := ⟨.ok .ok, [], _, he, .refl _, rfl, rfl⟩
    refine (sendHeader_ends hsend).weaken ?_
    rintro r t link' ⟨answer, ⟨rfl, rfl⟩, hr, -⟩
    exact ⟨⟨hr.mpr rfl, rfl⟩, fun _ => trivial⟩
  sync_traffic r t h := h.2 ▸ Trace.traffic_nil
  fits n t h := by
    obtain ⟨heq, -, hpos, hword⟩ := h
    cases heq
    exact ⟨hpos, hword⟩

variable {timing : Timing} {port : String} {patience : Nat}

/-- An update gets to its third phase, so the block size is the one that was told. -/
theorem size_eq (h : Obliging σ κ image size) {other : Nat} {r : Except Halt Unit} {t : Trace}
    (hruns : Runs (Update.course h.conversation timing port patience other) r t)
    (hfair : ∀ e ∈ t, ¬ e.Fails) : other = size := by
  cases hruns with
  | stop _ head =>
    cases head
    next e => exact absurd (.opening port commandBaud e) (hfair _ (by simp))
  | next _ _ hruns =>
    cases hruns with
    | stop _ head =>
      cases head with
      | refused h hs => exact absurd (Except.ok.inj h.1) hs
      | unheard h => cases h.1
      | unfinished h => cases h.1
    | next _ _ hruns =>
      cases hruns with
      | stop _ head => cases head.1
      | next _ head _ => exact Except.ok.inj head.1

end Obliging

/-- A channel that accepts everything and tells the block size `size`. -/
structure Deputy (size : UInt16) where

namespace Deputy

variable {σ : Type} {size : UInt16}

/-- The status and the block size, low byte first. -/
def response (size : UInt16) : Bytes := [Status.ok.toByte, size.toUInt8, (size >>> 8).toUInt8]

def accept : LinkM σ (Deputy size) Status := fun link =>
  .ok .ok { link with command := { link.command with response := response size } }

instance : CommandChannel σ (Deputy size) := ⟨accept, accept⟩

theorem obliging [SerialHost σ] (image : Image) (h : 0 < size.toNat) :
    Obliging σ (Deputy size) image size.toNat where
  sync link := ⟨_, _, rfl⟩
  program link _ := by
    refine ⟨_, _, rfl, ?_⟩
    have hsize : Bytes.littleEndian [size.toUInt8, (size >>> 8).toUInt8] = size.toNat := by
      have hword := size.toNat_lt
      have hshift : (8 : UInt16).toNat % 16 = 8 := rfl
      simp only [Bytes.littleEndian, UInt16.toNat_toUInt8, UInt16.toNat_shiftRight, hshift,
        Nat.shiftRight_eq_div_pow]
      omega
    simp only [response, RamStage.blockSize?, hsize, if_pos h]
  header link _ := ⟨_, _, rfl⟩

end Deputy

/-- The turns of a whole update: those of the RAM stage, then those of the main stage. -/
def Update.turns (timing : Timing) (image : Image) (size : Nat) : List Turn :=
  RamStage.turns timing image ++ MainStage.turns timing image size

theorem Update.turns_limit {timing : Timing} {patience : Nat}
    (hack : timing.ackTimeout + 2 ≤ patience) (hsum : timing.checksumTimeout + 2 ≤ patience)
    (image : Image) (size : Nat) : ∀ u ∈ turns timing image size, u.limit + 2 ≤ patience := by
  intro u hu
  simp only [turns, RamStage.turns, MainStage.turns, MainStage.opening, MainStage.closing,
    List.mem_append, List.mem_cons, List.mem_map, List.not_mem_nil, or_false] at hu
  obtain rfl | ((rfl | rfl) | ⟨block, -, rfl⟩) | htail := hu
  · exact hsum
  · exact hack
  · exact hack
  · exact hsum
  · split at htail
    · cases htail
    · rw [List.mem_singleton.mp htail]
      exact hsum

section Updates

variable {κ : Type} [CommandChannel Wire κ] {image : Image} {size : Nat}

theorem findValidator_faces (h : Obliging Wire κ image size) {patience : Nat} :
    Phase.Faces patience (Update.FindsValidator h.conversation.sync) [] := by
  refine Phase.faces_none fun r t hp _ => ?_
  cases hp with
  | found h =>
    obtain ⟨-, rfl⟩ := h
    exact ⟨rfl, rfl, rfl⟩
  | refused h hs => exact absurd (Except.ok.inj h.1) hs
  | unheard h => cases h.1
  | unfinished h => cases h.1

theorem resyncs_faces (h : Obliging Wire κ image size) {patience : Nat} (hpos : 0 < patience)
    (port : String) :
    Phase.Faces patience (Resync.Resyncs port h.conversation.sync patience) [] := by
  refine Phase.faces_none fun r t hp hfair => ?_
  obtain ⟨hsent, hheard⟩ := hp.waits.silent fun r u hs => by rw [hs.2]; exact ⟨rfl, rfl⟩
  refine ⟨?_, hsent, hheard⟩
  cases r with
  | ok _ => rfl
  | error e =>
    obtain hzero | ⟨x, hx, hf⟩ | ⟨r, u, hs, hne⟩ := hp.troubled e rfl
    · omega
    · exact absurd hf (hfair x hx)
    · exact absurd hs.1 hne

theorem course_faces (h : Obliging Wire κ image size) {timing : Timing} {patience : Nat}
    (hack : timing.ackTimeout + 2 ≤ patience) (hsum : timing.checksumTimeout + 2 ≤ patience)
    (port : String) :
    List.Forall₂ (Phase.Faces patience) (Update.course h.conversation timing port patience size)
      [[], [], [], [], [], RamStage.turns timing image, [], [], MainStage.turns timing image size,
        []] := by
  have hlimit := Update.turns_limit hack hsum image size
  refine .cons (opens_faces _ _) (.cons (findValidator_faces h) (.cons ?_ (.cons ?_
    (.cons (switches_faces _) (.cons (plays_faces fun u hu => hlimit u ?_)
      (.cons (reopens_faces _ _) (.cons (switches_faces _)
        (.cons (plays_faces fun u hu => hlimit u ?_)
          (.cons (resyncs_faces h (by omega) port) .nil)))))))))
  · refine Phase.faces_none fun r t hp _ => ?_
    obtain ⟨hr, rfl, -⟩ := hp
    cases r with
    | ok _ => exact ⟨rfl, rfl, rfl⟩
    | error e => cases hr
  · refine Phase.faces_none fun r t hp _ => ?_
    obtain ⟨hr, rfl⟩ := hp
    exact ⟨hr, rfl, rfl⟩
  · exact List.mem_append_left _ hu
  · exact List.mem_append_right _ hu

theorem update_faces (h : Obliging Wire κ image size) (u : Updater Wire κ) (port address : String)
    (hwire : u.line.host.Faultless) (hack : u.timing.ackTimeout + 2 ≤ u.line.patience)
    (hsum : u.timing.checksumTimeout + 2 ≤ u.line.patience) :
    ∃ sent, Faces (Update.turns u.timing image size) u.line.host.queue
        (u.update image port address).1 sent (u.update image port address).2.line.host.queue ∧
      (u.update image port address).2.line.host.written = u.line.host.written ++ sent := by
  obtain ⟨other, t, last, -, -, hruns, hfin, hlead⟩ :=
    update_runs h.conversation u port address trivial
  obtain ⟨hpass, hfair⟩ := hlead.path.passes hwire
  obtain ⟨w, hpath, hclose⟩ := hlead.path.split
  have hw := (hpath.passes hwire).1.faultless
  have hsize : other = size :=
    h.size_eq hruns fun e he => (hfair e (List.mem_append_left last he)).1
  subst hsize
  have hfaces := hruns.faces (course_faces h hack hsum port) hwire hpath
  have hlast : Trace.sent last = [] ∧ Trace.heard last = [] := by
    cases hfin <;> exact ⟨rfl, rfl⟩
  have hqueue := (hclose.passes hw).1.queue
  rw [hlast.2, List.nil_append] at hqueue
  refine ⟨t.sent, ?_, ?_⟩
  · simpa [hqueue, Update.turns] using hfaces
  · rw [hpass.written, Trace.sent_append, hlast.1, List.append_nil]

/-- Over a channel that answers for the device and a faultless wire, an update succeeds
exactly when the receive queue begins with the expected answers; it then wrote all turns
and took just these answers. Otherwise there is a first turn whose answer is missing or
wrong: the update wrote everything up to that turn and nothing behind it, took at most
the one byte that stood there, and fails as that turn says. -/
theorem update_faultless (h : Obliging Wire κ image size) (u : Updater Wire κ)
    (port address : String) (hwire : u.line.host.Faultless)
    (hack : u.timing.ackTimeout + 2 ≤ u.line.patience)
    (hsum : u.timing.checksumTimeout + 2 ≤ u.line.patience) :
    let steps := Update.turns u.timing image size
    let queue := u.line.host.queue
    let result := (u.update image port address).1
    let wire := (u.update image port address).2.line.host
    (result = .ok () ↔ steps.map Turn.reply <+: queue) ∧
    (result = .ok () → wire.written = u.line.host.written ++ steps.flatMap Turn.data ∧
      wire.queue = queue.drop steps.length) ∧
    (¬ steps.map Turn.reply <+: queue → ∃ k step, steps[k]? = some step ∧
      (steps.take k).map Turn.reply = queue.take k ∧ queue[k]? ≠ some step.reply ∧
      result = .error (.failed (step.failure queue[k]?)) ∧
      wire.written = u.line.host.written ++ (steps.take (k + 1)).flatMap Turn.data ∧
      wire.queue = queue.drop (k + 1)) := by
  dsimp only
  obtain ⟨sent, hfaces, hwritten⟩ := update_faces h u port address hwire hack hsum
  generalize (u.update image port address).1 = result at hfaces ⊢
  generalize (u.update image port address).2.line.host.queue = left at hfaces ⊢
  cases hfaces with
  | through hqueue =>
    have hprefix := List.prefix_append ((Update.turns u.timing image size).map Turn.reply)
      left
    rw [← hqueue] at hprefix
    refine ⟨⟨fun _ => hprefix, fun _ => rfl⟩, fun _ => ⟨hwritten, ?_⟩,
      fun hno => absurd hprefix hno⟩
    rw [hqueue, ← List.length_map (f := Turn.reply), List.drop_left]
  | @stopped k step turn before here =>
    have hno : ¬ (Update.turns u.timing image size).map Turn.reply <+: u.line.host.queue := by
      rintro ⟨left, hqueue⟩
      refine here ?_
      have hk := (List.getElem?_eq_some_iff.mp turn).1
      rw [← hqueue, List.getElem?_append_left (by rw [List.length_map]; exact hk),
        List.getElem?_map, turn]
      rfl
    exact ⟨⟨nofun, fun hyes => absurd hyes hno⟩, nofun,
      fun _ => ⟨k, step, turn, before, here, rfl, hwritten, rfl⟩⟩

end Updates

theorem update_faultless_small :
    ((⟨{ host := { queue := [3, 0x32, 0x32, 7, 5] }, journal := [], patience := 2000 }, ⟨⟩, {}⟩ :
      Updater Wire (Deputy 2)).update .small "COM1" "0").1 = .ok () :=
  (update_faultless (Deputy.obliging .small (by decide)) _ _ _
    ⟨rfl, rfl, rfl, by decide⟩ (by decide) (by decide)).1.mpr ⟨[], by decide +kernel⟩

end SspUpdate
