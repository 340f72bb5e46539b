import SspUpdate.Proofs.PlainCalls

/-!
# The marks of the stages

A stage of an update is sent in portions, and each portion is reported once it
has gone out; a full block of the main stage only after its checksum has come
back. A `Mark` is a report with the bytes that went before it, so the marks
that a stage can leave are known from the image and the block size. On every
host a stage leaves them in this order, up to where it fails.
-/

namespace SspUpdate

/-- A report, and the bytes that have gone out and come back until it is made. -/
structure Mark where
  report : Progress
  sent : Bytes
  heard : Bytes
  deriving DecidableEq

namespace Mark

/-- The mark when some bytes went before. -/
def after (sent heard : Bytes) (m : Mark) : Mark := ⟨m.report, sent ++ m.sent, heard ++ m.heard⟩

theorem after_nil : after [] [] = id := rfl

theorem after_comp (sent heard sent' heard' : Bytes) :
    after sent heard ∘ after sent' heard' = after (sent ++ sent') (heard ++ heard') := by
  funext m
  simp [after]

theorem map_report_after (sent heard : Bytes) (ms : List Mark) :
    (ms.map (after sent heard)).map report = ms.map report := by
  rw [List.map_map]
  rfl

end Mark

namespace Trace

/-- The reports of a trace, each with the bytes before it. -/
def marks : Trace → List Mark
  | [] => []
  | e :: t =>
    e.progress?.toList.map (⟨·, [], []⟩) ++ (marks t).map (.after e.sent e.heard?.toList)

theorem marks_append (t u : Trace) :
    marks (t ++ u) = marks t ++ (marks u).map (.after t.sent t.heard) := by
  induction t with
  | nil => simp [marks, Mark.after_nil]
  | cons e t ih =>
    rw [List.cons_append, marks, marks, ih, List.map_append, List.map_map, Mark.after_comp,
      ← List.append_assoc, sent_cons, heard_cons]

theorem map_report_marks (t : Trace) : (marks t).map Mark.report = t.reports := by
  induction t with
  | nil => rfl
  | cons e t ih =>
    rw [marks, List.map_append, Mark.map_report_after, ih, reports_cons, List.map_map]
    cases e.progress? <;> rfl

theorem marks_of_unreported {t : Trace} (h : t.reports = []) : t.marks = [] := by
  rw [← map_report_marks] at h
  exact List.map_eq_nil_iff.mp h

/-- A report in a trace leaves its mark. -/
theorem mem_marks (before after : Trace) (p : Progress) :
    ⟨p, before.sent, before.heard⟩ ∈ marks (before ++ .progressed p :: after) := by
  rw [marks_append]
  refine List.mem_append_right _ (List.mem_map.mpr ⟨⟨p, [], []⟩, ?_, by simp [Mark.after]⟩)
  exact List.mem_append_left _ (List.mem_singleton.mpr rfl)

end Trace

/-- A part of a transfer that is reported when it is through: what it adds to the sum that is
reported, the bytes that go out for it and those that come back. -/
structure Portion where
  data : Bytes
  out : Bytes
  back : Bytes

namespace Portion

/-- A piece goes out as it is. -/
def bare (piece : Bytes) : Portion := ⟨piece, piece, []⟩

/-- A block goes out with its checksum, which has to come back. -/
def checked (block : Bytes) : Portion := ⟨block, block ++ [block.checksum], [block.checksum]⟩

/-- The marks of portions one after the other, with so many bytes reported before. -/
def marks (stage : Stage) (total : Nat) : List Portion → (reported : Nat) → List Mark
  | [], _ => []
  | p :: rest, reported =>
    let reported := reported + p.data.length
    ⟨⟨stage, reported, total⟩, p.out, p.back⟩ :: (marks stage total rest reported).map
      (.after p.out p.back)

/-- The mark behind each portion counts the portions up to it. -/
theorem marks_eq (stage : Stage) (total : Nat) (ps : List Portion) (reported : Nat) :
    marks stage total ps reported = (List.range ps.length).map fun i =>
      ⟨⟨stage, reported + ((ps.take (i + 1)).flatMap data).length, total⟩,
        (ps.take (i + 1)).flatMap out, (ps.take (i + 1)).flatMap back⟩ := by
  induction ps generalizing reported with
  | nil => rfl
  | cons p ps ih =>
    rw [marks, ih, List.length_cons, List.range_succ_eq_map, List.map_cons, List.map_map,
      List.map_map]
    congr 1
    · simp
    · apply List.map_congr_left
      intro i _
      simp [Mark.after, Nat.add_assoc]

end Portion

/-- The trace is traffic that leaves the first of the marks. If it ends well, it gives this value
and leaves all of them, and these bytes have gone out and come back. -/
structure Marked {α : Type} (out back : Bytes) (ms : List Mark) (a : α) (r : Except Halt α)
    (t : Trace) : Prop where
  traffic : t.Traffic
  marks : t.marks <+: ms
  whole : ∀ b, r = .ok b → b = a ∧ t.sent = out ∧ t.heard = back ∧ t.marks = ms

namespace Marked

variable {α β : Type} {out back out' back' : Bytes} {ms ms' : List Mark} {a a' : α} {b : β}
  {r : Except Halt β} {t u : Trace}

/-- Two parts of a transfer; the marks of the second one come after all of the first. -/
theorem append (h : Marked out back ms a (.ok a') t) (h' : Marked out' back' ms' b r u) :
    Marked (out ++ out') (back ++ back') (ms ++ ms'.map (.after out back)) b r (t ++ u) := by
  obtain ⟨-, hsent, hheard, hmarks⟩ := h.whole a' rfl
  refine ⟨h.traffic.append h'.traffic, ?_, fun b' hr => ?_⟩
  · rw [Trace.marks_append, hsent, hheard, hmarks, List.prefix_append_right_inj]
    exact h'.marks.map _
  · obtain ⟨hvalue, hsent', hheard', hmarks'⟩ := h'.whole b' hr
    rw [Trace.sent_append, Trace.heard_append, Trace.marks_append, hsent, hheard, hmarks, hsent',
      hheard', hmarks']
    exact ⟨hvalue, rfl, rfl, rfl⟩

/-- A transfer that has failed leaves no mark of what was to follow. -/
theorem extend {e : Halt} (h : Marked out back ms a (.error e) t) :
    Marked out' back' (ms ++ ms') b (.error e) t :=
  ⟨h.traffic, h.marks.trans (List.prefix_append _ _), fun _ hr => by cases hr⟩

theorem of_sends {data : Bytes} (h : Sends data (Done r) t ∧ ∀ b', r = .ok b' → b' = b)
    (hno : t.reports = []) : Marked data [] [] b r t := by
  have hmarks := Trace.marks_of_unreported hno
  refine ⟨h.1.traffic, hmarks ▸ List.prefix_rfl, fun b' hr => ?_⟩
  exact ⟨h.2 b' hr, h.1.whole (by rw [hr]; rfl), h.1.heard, hmarks⟩

theorem of_answers {turn : Turn} {r : Except Halt Unit} (h : turn.Answers r t)
    (hno : t.reports = []) : Marked [] [turn.reply] [] () r t := by
  have hmarks := Trace.marks_of_unreported hno
  refine ⟨h.traffic, hmarks ▸ List.prefix_rfl, fun _ hr => ⟨rfl, h.sent, ?_, hmarks⟩⟩
  subst hr
  cases h with
  | right hsilent => simp [Entry.heard?, hsilent.heard]

end Marked

section Transfers

variable {s σ α β : Type} [SerialHost σ] [HasLine s σ] {st : s} {l : Line σ}

/-- One part of a transfer after the other. -/
theorem Ends.marked {out back out' back' : Bytes} {ms ms' : List Mark} {a : α} {b : β}
    {act : EStateM Halt s α} {k : α → EStateM Halt s β}
    (h : Ends act st fun r t _ => Marked out back ms a r t)
    (hk : ∀ st', Ends (k a) st' fun r t _ => Marked out' back' ms' b r t) :
    Ends (act >>= k) st fun r t _ =>
      Marked (out ++ out') (back ++ back') (ms ++ ms'.map (.after out back)) b r t := by
  refine Ends.andThen h ?_ fun _ _ _ ht => ht.extend
  intro a' t st' ht
  obtain ⟨rfl, -⟩ := ht.whole a' rfl
  exact (hk st').weaken fun _ _ _ hu => ht.append hu

theorem value_marked (a : α) : Ends (pure a) st fun r t _ => Marked [] [] [] a r t :=
  Ends.value ⟨by simp, List.prefix_rfl, fun b hr => by cases hr; exact ⟨rfl, rfl, rfl, rfl⟩⟩

theorem note_marked (n : Note) : Ends (Line.note n) l fun r t _ => Marked [] [] [] () r t :=
  note_ends ⟨(Trace.Silent.note n).traffic, List.prefix_rfl, fun _ _ => ⟨rfl, rfl, rfl, rfl⟩⟩

theorem report_marked (p : Progress) :
    Ends (Line.report p) l fun r t _ => Marked [] [] [⟨p, [], []⟩] () r t := by
  refine (report_ends p l).weaken ?_
  rintro _ _ _ ⟨-, rfl⟩
  exact ⟨(Trace.Silent.report p).traffic, List.prefix_rfl, fun _ _ => ⟨rfl, rfl, rfl, rfl⟩⟩

theorem sendBlock_marked (data : Bytes) :
    Ends (Transfer.sendBlock data) l fun r t _ => Marked data [] [] data.checksum r t :=
  ((sendBlock_sends data l).both (Transfer.sendBlock_plain data l)).weaken
    fun _ _ _ h => .of_sends h.1 h.2.unreported

theorem sendByte_marked (byte : UInt8) :
    Ends (Transfer.sendByte byte) l fun r t _ => Marked [byte] [] [] () r t :=
  ((sendByte_sends byte l).both (Transfer.sendByte_plain byte l)).weaken
    fun _ _ _ h => .of_sends h.1 h.2.unreported

theorem verifyChecksum_marked (timing : Timing) (sum : UInt8) :
    Ends (Transfer.verifyChecksum sum timing.checksumTimeout) l fun r t _ =>
      Marked [] [sum] [] () r t :=
  ((verifyChecksum_answers timing [] sum l).both (Transfer.verifyChecksum_plain sum _ l)).weaken
    fun _ _ _ h => .of_answers h.1 h.2.unreported

theorem expectAck_marked (timing : Timing) (step : Step) :
    Ends (Transfer.expectAck step timing.ackTimeout) l fun r t _ =>
      Marked [] [Transfer.ack] [] () r t :=
  ((expectAck_answers timing step [] l).both (Transfer.expectAck_plain step _ l)).weaken
    fun _ _ _ h => .of_answers h.1 h.2.unreported

/-- The pieces of a stage leave a mark each. -/
theorem sendPieces_marked (stage : Stage) (total : Nat) (pieces : List Bytes) (sent : Nat)
    (sum : UInt8) :
    Ends (RamStage.sendPieces stage total pieces sent sum) l fun r t _ =>
      Marked pieces.flatten [] (Portion.marks stage total (pieces.map .bare) sent)
        (sum ^^^ Bytes.checksum pieces.flatten) r t := by
  induction pieces generalizing sent sum l with
  | nil =>
    rw [List.flatten_nil, show sum ^^^ Bytes.checksum [] = sum from UInt8.xor_zero]
    exact value_marked sum
  | cons piece rest ih =>
    have hsum : sum ^^^ piece.checksum ^^^ Bytes.checksum rest.flatten =
        sum ^^^ Bytes.checksum (piece :: rest).flatten := by
      rw [List.flatten_cons, Bytes.checksum_append, UInt8.xor_assoc]
    rw [← hsum]
    refine ((sendBlock_marked piece).marked fun l => (report_marked _).marked fun l =>
      ih (sent + piece.length) (sum ^^^ piece.checksum)).weaken fun r t _ h => ?_
    simpa [Portion.marks, Portion.bare, Mark.after, Mark.after_comp] using h

/-- The full blocks leave a mark each, behind the checksum that came back. -/
theorem sendBlocks_marked (timing : Timing) (plan : Plan) (blocks : List Bytes)
    (index sent : Nat) :
    Ends (MainStage.sendBlocks timing plan blocks index sent) l fun r t _ =>
      Marked (blocks.flatMap fun block => block ++ [block.checksum]) (blocks.map Bytes.checksum)
        (Portion.marks .main plan.size (blocks.map .checked) sent) () r t := by
  induction blocks generalizing index sent l with
  | nil => exact value_marked ()
  | cons block rest ih =>
    refine ((sendBlock_marked block).marked fun l => (sendByte_marked _).marked fun l =>
      (verifyChecksum_marked timing _).marked fun l => (note_marked _).marked fun l =>
      (report_marked _).marked fun l => ih (index + 1) (sent + block.length)).weaken
      fun r t _ h => ?_
    simpa [Portion.marks, Portion.checked, Mark.after, Mark.after_comp] using h

end Transfers

namespace Bytes

theorem flatten_take_chunks {size : Nat} (hs : 0 < size) (data : Bytes) (n : Nat) :
    ((chunks size data).take n).flatten = data.take (n * size) := by
  induction data using chunks.induct size generalizing n with
  | case1 data h ih =>
    cases n with
    | zero => simp
    | succ n =>
      rw [chunks, dif_pos h, List.take_succ_cons, List.flatten_cons, ih, Nat.succ_mul,
        Nat.add_comm, List.take_add]
  | case2 data h =>
    obtain rfl : data = [] := Classical.not_not.mp fun hne => h ⟨hs, hne⟩
    simp [chunks]

theorem length_fullBlocks (size : Nat) (data : Bytes) :
    (fullBlocks size data).length = data.length / size := by
  rw [fullBlocks, List.length_map, List.length_range]

theorem length_flatten_take_fullBlocks {size n : Nat} {data : Bytes} (h : n ≤ data.length / size) :
    ((fullBlocks size data).take n).flatten.length = n * size := by
  have hfits : n * size ≤ data.length :=
    Nat.le_trans (Nat.mul_le_mul_right size h) (Nat.div_mul_le_self _ _)
  rw [fullBlocks, ← List.map_take, List.take_range, Nat.min_eq_left h, flatten_slices,
    List.length_take, Nat.min_eq_left hfits]

end Bytes

namespace Portion

theorem flatMap_bare (pieces : List Bytes) :
    (pieces.map bare).flatMap data = pieces.flatten ∧
      (pieces.map bare).flatMap out = pieces.flatten ∧ (pieces.map bare).flatMap back = [] := by
  simp only [List.flatMap_map]
  exact ⟨List.flatMap_id, List.flatMap_id, List.flatMap_eq_nil_iff.mpr fun _ _ => rfl⟩

theorem flatMap_checked (blocks : List Bytes) :
    (blocks.map checked).flatMap data = blocks.flatten ∧
      (blocks.map checked).flatMap out = blocks.flatMap (fun block => block ++ [block.checksum]) ∧
      (blocks.map checked).flatMap back = blocks.map Bytes.checksum := by
  simp only [List.flatMap_map]
  exact ⟨List.flatMap_id, rfl, List.map_eq_flatMap.symm⟩

/-- The marks of data that goes out bare, in pieces of one size. -/
theorem marks_chunks (stage : Stage) (total : Nat) {size : Nat} (hs : 0 < size) (data : Bytes)
    (reported : Nat) :
    marks stage total ((data.chunks size).map bare) reported =
      (List.range ((data.length + size - 1) / size)).map fun i =>
        ⟨⟨stage, reported + min ((i + 1) * size) data.length, total⟩,
          data.take ((i + 1) * size), []⟩ := by
  rw [marks_eq, List.length_map, Bytes.length_chunks hs]
  refine List.map_congr_left fun i _ => ?_
  obtain ⟨hdata, hout, hback⟩ := flatMap_bare ((data.chunks size).take (i + 1))
  rw [← List.map_take, hdata, hout, hback, Bytes.flatten_take_chunks hs, List.length_take]

/-- The marks of the full blocks of some data. -/
theorem marks_fullBlocks (stage : Stage) (total size : Nat) (data : Bytes) :
    marks stage total ((data.fullBlocks size).map checked) 0 =
      (List.range (data.length / size)).map fun i =>
        ⟨⟨stage, (i + 1) * size, total⟩,
          ((data.fullBlocks size).take (i + 1)).flatMap fun block => block ++ [block.checksum],
          ((data.fullBlocks size).take (i + 1)).map Bytes.checksum⟩ := by
  rw [marks_eq, List.length_map, Bytes.length_fullBlocks]
  refine List.map_congr_left fun i hi => ?_
  obtain ⟨hdata, hout, hback⟩ := flatMap_checked ((data.fullBlocks size).take (i + 1))
  rw [← List.map_take, hdata, hout, hback, Nat.zero_add,
    Bytes.length_flatten_take_fullBlocks (List.mem_range.mp hi)]

end Portion

/-- The marks of the RAM stage: each piece is reported when it has gone out. -/
def RamStage.marks (image : Image) : List Mark :=
  let size := image.header.ramSize.toNat
  (List.range ((size + pieceSize - 1) / pieceSize)).map fun i =>
    ⟨⟨.ram, min ((i + 1) * pieceSize) size, size⟩, image.ramStage.take ((i + 1) * pieceSize), []⟩

namespace MainStage

/-- The bytes that go out before the marks of the main stage, and those that come back. -/
def greeting (image : Image) : Bytes × Bytes :=
  (image.handshakeByte :: image.headerBytes, [Transfer.ack, Transfer.ack])

/-- The marks of the full blocks: each is reported when its checksum has come back. -/
def blockMarks (image : Image) (size : Nat) : List Mark :=
  (List.range (image.mainStage.length / size)).map fun i =>
    let through := (image.mainStage.fullBlocks size).take (i + 1)
    ⟨⟨.main, (i + 1) * size, image.mainStage.length⟩,
      (greeting image).1 ++ through.flatMap fun block => block ++ [block.checksum],
      (greeting image).2 ++ through.map Bytes.checksum⟩

/-- The marks of the tail: each section is reported when it has gone out, behind all blocks. -/
def sectionMarks (image : Image) (size : Nat) : List Mark :=
  let blocks := image.mainStage.fullBlocks size
  let left := image.mainStage.length % size
  (List.range ((left + Plan.sectionSize - 1) / Plan.sectionSize)).map fun i =>
    ⟨⟨.main, image.mainStage.length / size * size + min ((i + 1) * Plan.sectionSize) left,
        image.mainStage.length⟩,
      (greeting image).1 ++ (blocks.flatMap (fun block => block ++ [block.checksum]) ++
        (image.mainStage.tail size).take ((i + 1) * Plan.sectionSize)),
      (greeting image).2 ++ blocks.map Bytes.checksum⟩

def marks (image : Image) (size : Nat) : List Mark :=
  blockMarks image size ++ sectionMarks image size

/-- The marks of the main stage are those of its blocks and of its tail, behind the greeting. -/
theorem marks_eq (image : Image) (size : Nat) :
    marks image size = (Portion.marks .main image.mainStage.length
        ((image.mainStage.fullBlocks size).map .checked) 0 ++
      (Portion.marks .main image.mainStage.length
        (((image.mainStage.tail size).chunks Plan.sectionSize).map .bare)
        (image.mainStage.length / size * size)).map (Mark.after
          ((image.mainStage.fullBlocks size).flatMap fun block => block ++ [block.checksum])
          ((image.mainStage.fullBlocks size).map Bytes.checksum))).map
      (Mark.after (greeting image).1 (greeting image).2) := by
  rw [Portion.marks_fullBlocks, Portion.marks_chunks _ _ (by decide), Bytes.length_tail,
    List.map_append, List.map_map, List.map_map, List.map_map, marks, sectionMarks]
  congr 1
  refine List.map_congr_left fun i _ => ?_
  simp [Mark.after]

end MainStage

/-- Every piece ends behind the one before it, also a last one that is short. -/
theorem pieceEnd_lt {size total i j : Nat} (hij : i < j) (hj : j < (total + size - 1) / size) :
    min ((i + 1) * size) total < min ((j + 1) * size) total := by
  have hs : 0 < size := Nat.pos_of_ne_zero fun h => by simp [h] at hj
  have hfits : (j + 1) * size ≤ total + size - 1 := (Nat.le_div_iff_mul_le hs).mp hj
  have hnext : (i + 1) * size ≤ j * size := Nat.mul_le_mul_right size hij
  have hlast : (j + 1) * size = j * size + size := Nat.succ_mul j size
  omega

/-- Marks of one stage, in the order of their reports, none of which goes beyond the total. -/
structure Grows (stage : Stage) (ms : List Mark) : Prop where
  order : ms.Pairwise fun m n => m.report.sent < n.report.sent
  stage : ∀ m ∈ ms, m.report.stage = stage
  bounded : ∀ m ∈ ms, m.report.sent ≤ m.report.total

theorem Grows.of_range {stage : Stage} {count : Nat} {f : Nat → Mark}
    (order : ∀ i j, i < j → j < count → (f i).report.sent < (f j).report.sent)
    (hstage : ∀ i, (f i).report.stage = stage)
    (bounded : ∀ i < count, (f i).report.sent ≤ (f i).report.total) :
    Grows stage ((List.range count).map f) := by
  refine ⟨?_, ?_, ?_⟩
  · refine List.pairwise_map.mpr (List.pairwise_lt_range.imp_of_mem ?_)
    exact fun _ hj hij => order _ _ hij (List.mem_range.mp hj)
  · intro m hm
    obtain ⟨i, -, rfl⟩ := List.mem_map.mp hm
    exact hstage i
  · intro m hm
    obtain ⟨i, hi, rfl⟩ := List.mem_map.mp hm
    exact bounded i (List.mem_range.mp hi)

theorem RamStage.marks_grow (image : Image) : Grows .ram (RamStage.marks image) :=
  .of_range (fun _ _ hij hj => pieceEnd_lt hij hj) (fun _ => rfl) fun _ _ => Nat.min_le_right _ _

theorem MainStage.marks_grow (image : Image) (size : Nat) :
    Grows .main (MainStage.marks image size) := by
  have hdiv := Nat.div_add_mod' image.mainStage.length size
  have hblock : ∀ i < image.mainStage.length / size,
      (i + 1) * size ≤ image.mainStage.length / size * size :=
    fun i hi => Nat.mul_le_mul_right size hi
  have hblocks : Grows .main (blockMarks image size) := by
    refine .of_range (fun i j hij hj => ?_) (fun _ => rfl) fun i hi => ?_
    · have hs : 0 < size := Nat.pos_of_ne_zero fun h => by simp [h] at hj
      exact Nat.mul_lt_mul_of_pos_right (Nat.succ_lt_succ hij) hs
    · exact Nat.le_trans (hblock i hi) (Nat.div_mul_le_self _ _)
  have hsections : Grows .main (sectionMarks image size) := by
    refine .of_range (fun _ _ hij hj => Nat.add_lt_add_left (pieceEnd_lt hij hj) _) (fun _ => rfl)
      fun i _ => ?_
    dsimp only
    omega
  refine ⟨List.pairwise_append.mpr ⟨hblocks.order, hsections.order, ?_⟩, ?_, ?_⟩
  · intro m hm n hn
    obtain ⟨i, hi, rfl⟩ := List.mem_map.mp hm
    obtain ⟨j, hj, rfl⟩ := List.mem_map.mp hn
    have hleft : 0 < image.mainStage.length % size := by
      refine Nat.pos_of_ne_zero fun hzero => ?_
      rw [hzero] at hj
      exact absurd (List.mem_range.mp hj) (Nat.not_lt_zero j)
    have hend := hblock i (List.mem_range.mp hi)
    have hpos : 0 < (j + 1) * Plan.sectionSize := Nat.mul_pos (Nat.succ_pos j) (by decide)
    dsimp only
    omega
  · exact fun m hm => (List.mem_append.mp hm).elim (hblocks.stage m) (hsections.stage m)
  · exact fun m hm => (List.mem_append.mp hm).elim (hblocks.bounded m) (hsections.bounded m)

section Streams

variable {σ : Type} [SerialHost σ] {l : Line σ} (timing : Timing) (image : Image)

theorem ramStream_marked (baud : UInt32) :
    Ends (RamStage.stream timing image baud) l fun r t _ =>
      Marked image.ramStage [image.ramStage.checksum] (RamStage.marks image) () r t := by
  have hall : (image.ramStage.chunks RamStage.pieceSize).flatten = image.ramStage :=
    Bytes.flatten_chunks (by decide) _
  have hmarks : Portion.marks .ram image.header.ramSize.toNat
      ((image.ramStage.chunks RamStage.pieceSize).map .bare) 0 = RamStage.marks image := by
    rw [Portion.marks_chunks _ _ (by decide), image.length_ramStage]
    simp only [Nat.zero_add, RamStage.marks]
  have hpieces : ∀ l : Line σ, Ends (RamStage.sendPieces .ram image.header.ramSize.toNat
      (image.ramStage.chunks RamStage.pieceSize) 0 0) l fun r t _ =>
      Marked image.ramStage [] (RamStage.marks image) image.ramStage.checksum r t := by
    intro l
    have h := sendPieces_marked .ram image.header.ramSize.toNat
      (image.ramStage.chunks RamStage.pieceSize) 0 0 (l := l)
    rwa [hall, hmarks, UInt8.zero_xor] at h
  refine ((note_marked _).marked fun l => (hpieces l).marked fun l =>
    (verifyChecksum_marked timing _).marked fun l => note_marked _).weaken fun r t _ h => ?_
  simpa [Mark.after_nil] using h

theorem handshake_marked :
    Ends (MainStage.handshake timing image) l fun r t _ =>
      Marked (MainStage.greeting image).1 (MainStage.greeting image).2 [] () r t := by
  refine ((sendByte_marked _).marked fun l => (expectAck_marked timing .handshake).marked fun l =>
    (sendBlock_marked _).marked fun l => expectAck_marked timing .header).weaken fun r t _ h => ?_
  simpa [MainStage.greeting] using h

theorem sendRemainder_marked (plan : Plan) (tail : Bytes) :
    Ends (MainStage.sendRemainder timing plan tail) l fun r t _ =>
      Marked tail [tail.checksum] (Portion.marks .main plan.size
        ((tail.chunks Plan.sectionSize).map .bare) (plan.blocks * plan.blockSize)) () r t := by
  have hall : (tail.chunks Plan.sectionSize).flatten = tail := Bytes.flatten_chunks (by decide) _
  have hpieces : ∀ l : Line σ, Ends (RamStage.sendPieces .main plan.size
      (tail.chunks Plan.sectionSize) (plan.blocks * plan.blockSize) 0) l fun r t _ =>
      Marked tail [] (Portion.marks .main plan.size ((tail.chunks Plan.sectionSize).map .bare)
        (plan.blocks * plan.blockSize)) tail.checksum r t := by
    intro l
    have h := sendPieces_marked .main plan.size (tail.chunks Plan.sectionSize)
      (plan.blocks * plan.blockSize) 0 (l := l)
    rwa [hall, UInt8.zero_xor] at h
  refine ((hpieces l).marked fun l => (verifyChecksum_marked timing _).marked fun l =>
    note_marked _).weaken fun r t _ h => ?_
  simpa using h

/-- The tail, if there is one. -/
theorem closing_marked (size : Nat) :
    Ends (if 0 < (Plan.ofSize image size).remainder then
        MainStage.sendRemainder timing (.ofSize image size) (image.mainStage.tail size) else pure ())
      l fun r t _ => Marked (image.mainStage.tail size)
        (if image.mainStage.tail size = [] then [] else [Bytes.checksum (image.mainStage.tail size)])
        (Portion.marks .main image.mainStage.length
          (((image.mainStage.tail size).chunks Plan.sectionSize).map .bare)
          (image.mainStage.length / size * size)) () r t := by
  have hlen : (Plan.ofSize image size).remainder = (image.mainStage.tail size).length :=
    (Bytes.length_tail size image.mainStage).symm
  rw [hlen]
  by_cases ht : image.mainStage.tail size = []
  · have hnone : Bytes.chunks Plan.sectionSize [] = [] := by simp [Bytes.chunks]
    rw [if_pos ht, if_neg (by simp [ht]), ht, hnone]
    exact value_marked ()
  · rw [if_neg ht, if_pos (List.length_pos_iff.mpr ht)]
    exact sendRemainder_marked timing _ _

theorem mainStream_marked {size : Nat} (hs : 0 < size) (baud : UInt32) :
    Ends (MainStage.stream timing image (.ofSize image size) baud) l fun r t _ =>
      ∃ out back, Marked out back (MainStage.marks image size) () r t := by
  have hstream : Ends (MainStage.stream timing image (.ofSize image size) baud) l fun r t _ =>
      Marked _ _ _ () r t :=
    (handshake_marked timing image).marked fun l => (note_marked _).marked fun l =>
      (sendBlocks_marked timing _ _ 0 0).marked fun l => closing_marked timing image size
  refine hstream.weaken fun r t _ h => ?_
  rw [Plan.fullBlocks_ofSize image hs] at h
  rw [MainStage.marks_eq]
  simp only [Mark.after_nil, List.map_id, List.nil_append] at h
  exact ⟨_, _, h⟩

end Streams

end SspUpdate
