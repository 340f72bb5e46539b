import SspUpdate.Proofs.Layout
import SspUpdate.Proofs.Turns

/-!
# The stages as turns

The RAM stage is one turn. The main stage is two acknowledged turns, one turn
for each full block, and one for the tail if there is one. On every host the
stages play exactly these turns.
-/

namespace SspUpdate

/-- A turn whose answer is a checksum. -/
def Turn.verified (timing : Timing) (data : Bytes) (sum : UInt8) : Turn :=
  ⟨data, sum, .badChecksum sum, timing.checksumTimeout⟩

/-- A turn whose answer is the acknowledgement of a step. -/
def Turn.acknowledged (timing : Timing) (step : Step) (data : Bytes) : Turn :=
  ⟨data, Transfer.ack, .notAcknowledged step, timing.ackTimeout⟩

/-- A full block goes out with its checksum, which is also the answer. -/
def Turn.block (timing : Timing) (block : Bytes) : Turn :=
  .verified timing (block ++ [block.checksum]) block.checksum

def RamStage.turns (timing : Timing) (image : Image) : List Turn :=
  [.verified timing image.ramStage image.ramStage.checksum]

/-- The two steps before any firmware of the main stage goes out. -/
def MainStage.opening (timing : Timing) (image : Image) : List Turn :=
  [.acknowledged timing .handshake [image.handshakeByte],
    .acknowledged timing .header image.headerBytes]

/-- The tail goes out without a checksum; no tail, no turn. -/
def MainStage.closing (timing : Timing) (tail : Bytes) : List Turn :=
  if tail = [] then [] else [.verified timing tail tail.checksum]

/-- The main stage in blocks of `size` bytes. -/
def MainStage.turns (timing : Timing) (image : Image) (size : Nat) : List Turn :=
  opening timing image ++ (image.mainStage.fullBlocks size).map (.block timing) ++
    closing timing (image.mainStage.tail size)

/-- What the main stage sends: handshake byte and header, each block with its checksum,
and the bare tail. -/
theorem MainStage.data_turns (timing : Timing) (image : Image) (size : Nat) :
    (turns timing image size).flatMap Turn.data =
      image.handshakeByte :: image.headerBytes ++
        (image.mainStage.fullBlocks size).flatMap (fun block => block ++ [block.checksum]) ++
        image.mainStage.tail size := by
  have hblocks : ((image.mainStage.fullBlocks size).map (Turn.block timing)).flatMap Turn.data =
      (image.mainStage.fullBlocks size).flatMap fun block => block ++ [block.checksum] := by
    rw [List.flatMap_map]
    rfl
  have hclosing : (closing timing (image.mainStage.tail size)).flatMap Turn.data =
      image.mainStage.tail size := by
    unfold closing
    split
    · next h => simp [h]
    · simp [Turn.verified]
  rw [turns, List.flatMap_append, List.flatMap_append, hblocks, hclosing]
  simp [opening, Turn.acknowledged]

/-- What the device has to answer to it. -/
theorem MainStage.reply_turns (timing : Timing) (image : Image) (size : Nat) :
    (turns timing image size).map Turn.reply =
      Transfer.ack :: Transfer.ack :: (image.mainStage.fullBlocks size).map Bytes.checksum ++
        (if image.mainStage.tail size = [] then []
          else [Bytes.checksum (image.mainStage.tail size)]) := by
  have hblocks : ((image.mainStage.fullBlocks size).map (Turn.block timing)).map Turn.reply =
      (image.mainStage.fullBlocks size).map Bytes.checksum := by
    rw [List.map_map]
    rfl
  have hclosing : (closing timing (image.mainStage.tail size)).map Turn.reply =
      if image.mainStage.tail size = [] then []
        else [Bytes.checksum (image.mainStage.tail size)] := by
    unfold closing
    split <;> rfl
  rw [turns, List.map_append, List.map_append, hblocks, hclosing]
  rfl

section Transfers

variable {σ : Type} [SerialHost σ]

theorem readByte_ends (ms : Nat) (l : Line σ) :
    Ends (Transfer.readByte ms) l fun r t _ => ∃ a, t = [.received ms a] ∧
      r = match a with
        | .ok (some b) => .ok b
        | .ok none => .error (.failed (.noByteWithin ms))
        | .error h => .error h := by
  refine Ends.andThen (receive_ends ms l) ?_ ?_
  · rintro b _ l' rfl
    cases b with
    | some b => exact Ends.value ⟨.ok (some b), rfl, rfl⟩
    | none => exact Ends.failed ⟨.ok none, rfl, rfl⟩
  · rintro h _ _ rfl
    exact ⟨.error h, rfl, rfl⟩

/-- Reading one byte and comparing it is the answer of a turn. -/
theorem answer_ends (u : Turn) {act : UInt8 → LineM σ Unit} (l : Line σ)
    (hright : ∀ l, Ends (act u.reply) l fun r t _ => r = .ok () ∧ t.Silent)
    (hwrong : ∀ b, b ≠ u.reply → act b = fail (u.wrong b)) :
    Ends (Transfer.readByte u.limit >>= act) l fun r t _ => u.Answers r t := by
  refine Ends.andThen (readByte_ends u.limit l) ?_ ?_
  · rintro b t l' ⟨a, rfl, ha⟩
    match a, ha with
    | .ok (some c), ha =>
      cases ha
      by_cases hb : b = u.reply
      · subst hb
        refine (hright l').weaken ?_
        rintro _ t _ ⟨rfl, ht⟩
        exact .right ht
      · rw [hwrong b hb]
        exact Ends.failed (.wrong b hb)
  · rintro h t _ ⟨a, rfl, ha⟩
    match a, ha with
    | .ok none, ha => cases ha; exact .silence
    | .error _, ha => cases ha; exact .broken h

theorem verifyChecksum_answers (timing : Timing) (data : Bytes) (sum : UInt8) (l : Line σ) :
    Ends (Transfer.verifyChecksum sum timing.checksumTimeout) l fun r t _ =>
      (Turn.verified timing data sum).Answers r t := by
  refine answer_ends (Turn.verified timing data sum) l (fun l => ?_) fun b hb => if_neg hb
  exact (if_pos (c := sum = sum) rfl).symm ▸ Ends.value ⟨rfl, .nil⟩

theorem expectAck_answers (timing : Timing) (step : Step) (data : Bytes) (l : Line σ) :
    Ends (Transfer.expectAck step timing.ackTimeout) l fun r t _ =>
      (Turn.acknowledged timing step data).Answers r t := by
  refine answer_ends (Turn.acknowledged timing step data) l (fun l => ?_) fun b hb => if_neg hb
  exact (if_pos (c := Transfer.ack = Transfer.ack) rfl).symm ▸ note_ends ⟨rfl, .note _⟩

/-- The result with its value left out. -/
def Done {α : Type} (r : Except Halt α) : Except Halt Unit := r.map fun _ => ()

theorem sendByte_sends (b : UInt8) (l : Line σ) :
    Ends (Transfer.sendByte b) l fun r t _ => Sends [b] (Done r) t ∧ ∀ a, r = .ok a → a = () :=
  (send_sends [b] l).weaken fun r t _ h => ⟨by cases r <;> exact h, fun _ _ => rfl⟩

theorem sendBlock_sends (data : Bytes) (l : Line σ) :
    Ends (Transfer.sendBlock data) l fun r t _ =>
      Sends data (Done r) t ∧ ∀ sum, r = .ok sum → sum = data.checksum := by
  refine Ends.andThen (send_sends data l) ?_ ?_
  · intro _ t l' h
    refine Ends.value ⟨?_, fun sum hr => ?_⟩
    · rw [List.append_nil]
      exact h
    · cases hr
      rfl
  · exact fun e t _ h => ⟨h, fun sum hr => by cases hr⟩

/-- Pieces go out as their concatenation, and the checksum is that of all. -/
theorem sendPieces_sends (stage : Stage) (total : Nat) (pieces : List Bytes) (sent : Nat)
    (sum : UInt8) (l : Line σ) :
    Ends (RamStage.sendPieces stage total pieces sent sum) l fun r t _ =>
      Sends pieces.flatten (Done r) t ∧
        ∀ all, r = .ok all → all = sum ^^^ Bytes.checksum pieces.flatten := by
  induction pieces generalizing sent sum l with
  | nil =>
    refine Ends.value ⟨.silence .nil, fun all hr => ?_⟩
    cases hr
    simp [Bytes.checksum]
  | cons piece rest ih =>
    rw [List.flatten_cons]
    refine Ends.andThen (sendBlock_sends piece l) ?_ ?_
    · rintro more t l' ⟨hs, hmore⟩
      refine Ends.andThen (report_ends ⟨stage, sent + piece.length, total⟩ l') ?_ ?_
      · rintro _ _ l'' ⟨-, rfl⟩
        refine (ih _ _ l'').weaken ?_
        rintro r u _ ⟨hu, hall⟩
        refine ⟨hs.append (hu.after_silence (.report _)), fun all hr => ?_⟩
        rw [hall all hr, hmore more rfl, Bytes.checksum_append, UInt8.xor_assoc]
      · rintro h _ _ ⟨hr, -⟩
        cases hr
    · rintro e t _ ⟨hs, -⟩
      exact ⟨hs.extend _, fun all hr => by cases hr⟩

end Transfers

section OneTurn

variable {σ α : Type} [SerialHost σ] {u : Turn} {us : List Turn} {l : Line σ}

/-- The rest of a turn's data goes out with a known value, after a first part did. -/
theorem rest_plays {first rest : Bytes} {t₀ : Trace} (hfirst : Sends first (.ok ()) t₀)
    (hdata : first ++ rest = u.data) {b : α} {send : LineM σ α} {k : α → LineM σ Unit}
    (hsend : Ends send l fun r t _ => Sends rest (Done r) t ∧ ∀ a, r = .ok a → a = b)
    (hk : ∀ t l', Sends u.data (.ok ()) t →
      Ends (k b) l' fun r t' _ => Plays (u :: us) r (t ++ t')) :
    Ends (send >>= k) l fun r t _ => Plays (u :: us) r (t₀ ++ t) := by
  refine Ends.andThen hsend ?_ ?_
  · rintro a t l' ⟨hs, ha⟩
    rw [ha a rfl]
    have hall : Sends u.data (.ok ()) (t₀ ++ t) := hdata ▸ hfirst.append hs
    exact (hk _ l' hall).weaken fun r t' _ h => List.append_assoc t₀ t t' ▸ h
  · rintro e t _ ⟨hs, -⟩
    have hall : Sends u.data (.error e) (t₀ ++ t) := hdata ▸ hfirst.append hs
    exact .unsent hall

/-- All of a turn's data goes out in one go. -/
theorem data_plays {b : α} {send : LineM σ α} {k : α → LineM σ Unit}
    (hsend : Ends send l fun r t _ => Sends u.data (Done r) t ∧ ∀ a, r = .ok a → a = b)
    (hk : ∀ t l', Sends u.data (.ok ()) t →
      Ends (k b) l' fun r t' _ => Plays (u :: us) r (t ++ t')) :
    Ends (send >>= k) l fun r t _ => Plays (u :: us) r t :=
  rest_plays (.silence .nil) (List.nil_append _) hsend hk

/-- The answer comes, and after the right one the other turns. -/
theorem answer_plays {t : Trace} (hs : Sends u.data (.ok ()) t) {answer : LineM σ Unit}
    {k : Unit → LineM σ Unit} (ha : Ends answer l fun r t' _ => u.Answers r t')
    (hk : ∀ l', Ends (k ()) l' fun r t'' _ => Plays us r t'') :
    Ends (answer >>= k) l fun r t' _ => Plays (u :: us) r (t ++ t') :=
  Ends.andThen ha
    (fun _ _ l' ha => (hk l').weaken fun _ _ _ h => .turn hs ha h)
    fun _ _ _ ha => .unanswered hs ha

/-- The answer of the last turn. -/
theorem last_answer_plays {t : Trace} (hs : Sends u.data (.ok ()) t) {answer : LineM σ Unit}
    (ha : Ends answer l fun r t' _ => u.Answers r t') :
    Ends answer l fun r t' _ => Plays [u] r (t ++ t') := by
  refine ha.weaken fun r t' _ h => ?_
  cases r with
  | ok _ =>
    have hp := Plays.turn hs h (.finished .nil)
    rwa [List.append_nil] at hp
  | error e => exact .unanswered hs h

end OneTurn

section Streams

variable {σ : Type} [SerialHost σ]

theorem noted_ends (n : Note) (l : Line σ) :
    Ends (Line.note n) l fun r t _ => Plays [] r t := note_ends (.finished (.note n))

/-- A note before turns changes nothing. -/
theorem note_plays {us : List Turn} {n : Note} {k : Unit → LineM σ Unit} {l : Line σ}
    (hk : ∀ l', Ends (k ()) l' fun r t _ => Plays us r t) :
    Ends (Line.note n >>= k) l fun r t _ => Plays us r t :=
  noted fun l' => (hk l').weaken fun _ _ _ hp => hp.silence (.note n)

/-- The RAM stage is its one turn. -/
theorem ramStream_plays (timing : Timing) (image : Image) (baud : UInt32) (l : Line σ) :
    Ends (RamStage.stream timing image baud) l fun r t _ =>
      Plays (RamStage.turns timing image) r t := by
  have hall : (image.ramStage.chunks RamStage.pieceSize).flatten = image.ramStage :=
    Bytes.flatten_chunks (by decide) _
  refine note_plays fun l => data_plays (b := image.ramStage.checksum) ?_ fun t l hs =>
    answer_plays hs (verifyChecksum_answers timing image.ramStage _ l) fun l => noted_ends _ l
  have h := sendPieces_sends .ram image.header.ramSize.toNat
    (image.ramStage.chunks RamStage.pieceSize) 0 0 l
  rwa [hall, UInt8.zero_xor] at h

theorem handshake_plays (timing : Timing) (image : Image) (l : Line σ) :
    Ends (MainStage.handshake timing image) l fun r t _ =>
      Plays (MainStage.opening timing image) r t :=
  data_plays (sendByte_sends _ l) fun _ l hs =>
    answer_plays hs (expectAck_answers timing .handshake _ l) fun l =>
      data_plays (sendBlock_sends _ l) fun _ l hs =>
        last_answer_plays hs (expectAck_answers timing .header _ l)

/-- Each full block is a turn of its own. -/
theorem sendBlocks_plays (timing : Timing) (plan : Plan) (blocks : List Bytes) (index sent : Nat)
    (l : Line σ) :
    Ends (MainStage.sendBlocks timing plan blocks index sent) l fun r t _ =>
      Plays (blocks.map (.block timing)) r t := by
  induction blocks generalizing index sent l with
  | nil => exact Ends.value (.finished .nil)
  | cons block rest ih =>
    refine Ends.andThen (sendBlock_sends block l) ?_ ?_
    · rintro sum t l ⟨hs, hsum⟩
      rw [hsum sum rfl]
      refine rest_plays hs rfl (sendByte_sends _ l) fun t l hs => ?_
      refine answer_plays hs (verifyChecksum_answers timing _ _ l) fun l => note_plays fun l => ?_
      refine Ends.andThen (report_ends _ l) ?_ ?_
      · rintro _ _ l ⟨-, rfl⟩
        exact (ih _ _ l).weaken fun _ _ _ h => h.silence (.report _)
      · rintro h _ _ ⟨hr, -⟩
        cases hr
    · rintro e t _ ⟨hs, -⟩
      exact .unsent (hs.extend [block.checksum])

theorem sendRemainder_plays (timing : Timing) (plan : Plan) (tail : Bytes) (l : Line σ) :
    Ends (MainStage.sendRemainder timing plan tail) l fun r t _ =>
      Plays [.verified timing tail tail.checksum] r t := by
  have hall : (tail.chunks Plan.sectionSize).flatten = tail := Bytes.flatten_chunks (by decide) _
  refine data_plays (b := tail.checksum) ?_ fun t l hs =>
    answer_plays hs (verifyChecksum_answers timing tail _ l) fun l => noted_ends _ l
  have h := sendPieces_sends .main plan.size (tail.chunks Plan.sectionSize)
    (plan.blocks * plan.blockSize) 0 l
  rwa [hall, UInt8.zero_xor] at h

/-- Turns after turns. -/
theorem Ends.plays {us vs : List Turn} {act : LineM σ Unit} {k : Unit → LineM σ Unit} {l : Line σ}
    (h : Ends act l fun r t _ => Plays us r t)
    (hk : ∀ l', Ends (k ()) l' fun r t _ => Plays vs r t) :
    Ends (act >>= k) l fun r t _ => Plays (us ++ vs) r t :=
  Ends.andThen h (fun _ _ l' hu => (hk l').weaken fun _ _ _ hv => hu.append hv)
    fun _ _ _ hu => hu.extend vs

/-- The main stage is its turns. -/
theorem mainStream_plays (timing : Timing) (image : Image) {size : Nat} (hs : 0 < size)
    (baud : UInt32) (l : Line σ) :
    Ends (MainStage.stream timing image (.ofSize image size) baud) l fun r t _ =>
      Plays (MainStage.turns timing image size) r t := by
  rw [MainStage.turns, List.append_assoc]
  refine Ends.plays (handshake_plays timing image l) fun l => note_plays fun l => ?_
  rw [Plan.fullBlocks_ofSize image hs]
  refine Ends.plays (sendBlocks_plays timing _ _ 0 0 l) fun l => ?_
  have hlen : (Plan.ofSize image size).remainder = (image.mainStage.tail size).length :=
    (Bytes.length_tail size image.mainStage).symm
  rw [hlen, Plan.tail_ofSize, MainStage.closing]
  by_cases ht : image.mainStage.tail size = []
  · rw [if_pos ht, ht]
    exact Ends.value (.finished .nil)
  · rw [if_neg ht, if_pos (List.length_pos_iff.mpr ht)]
    exact sendRemainder_plays timing _ _ l

end Streams

end SspUpdate
