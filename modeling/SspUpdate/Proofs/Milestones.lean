import SspUpdate.Proofs.Course

/-!
# Milestones of an update

What the parts of an update over the packet channel leave behind once they are
through: the introduction at the command rate, the RAM stage, and the way to
the main stage. Each is read off the phases it consists of.
-/

namespace SspUpdate

namespace Channel

/-- Somewhere in the trace a packet was answered by a reply that fits. -/
def Exchanged (packet : Bytes) (address : UInt8) (fits : Packet → Prop) (t : Trace) : Prop :=
  ∃ before exch after reply, t = before ++ (exch ++ after) ∧ Answered packet address reply exch ∧
    fits reply

variable {packet : Bytes} {address : UInt8} {fits : Packet → Prop} {t : Trace}

theorem Exchanged.left (h : Exchanged packet address fits t) (u : Trace) :
    Exchanged packet address fits (t ++ u) := by
  obtain ⟨before, exch, after, reply, rfl, h⟩ := h
  exact ⟨before, exch, after ++ u, reply, by simp, h⟩

theorem Exchanged.right (h : Exchanged packet address fits t) (u : Trace) :
    Exchanged packet address fits (u ++ t) := by
  obtain ⟨before, exch, after, reply, rfl, h⟩ := h
  exact ⟨u ++ before, exch, after, reply, by simp, h⟩

/-- A call that gave a value has exchanged, and sent whole copies only. -/
theorem Calls.exchanged {α : Type} {means : α → Packet → Prop} {a : α}
    (h : Calls packet address means (.ok a) t) :
    Exchanged packet address (means a) t ∧ ∃ n, t.sent = copies n packet := by
  obtain ⟨reply, hreply, hmeans⟩ := h.answered a rfl
  obtain ⟨n, hsent⟩ := hreply.sent
  exact ⟨⟨[], t, [], reply, by simp, hreply, hmeans⟩, n + 1, hsent⟩

end Channel

/-- What a completed introduction leaves: the device told the block size, accepted the
header, and nothing but packets went out. -/
structure Introduced (image : Image) (address : UInt8) (size : Nat) (t : Trace) : Prop where
  steady : t.Steady commandBaud
  asked : Channel.Exchanged (Channel.programPacket address) address (fun reply =>
    reply.status? = some .ok ∧ RamStage.blockSize? reply.data = some size) t
  told : Channel.Exchanged (Channel.headerPacket address image) address
    (fun reply => reply.status? = some .ok) t

/-- How an introduction can fail, and the bytes that went out before: copies of the
packets up to the one that was not accepted. -/
inductive TurnedAway (image : Image) (address : UInt8) : Error → Bytes → Prop where
  | unopened {e : Error} (kind : e.kind = .port) : TurnedAway image address e []
  | unfound {e : Error} {sent : Bytes} (kind : e.kind = .noValidator)
    (h : Channel.CopiesOf (Channel.syncPacket address) sent) : TurnedAway image address e sent
  | unasked {e : Error} {i : Nat} {sent : Bytes} (kind : e.kind = .sendProgramCmd)
    (h : Channel.CopiesOf (Channel.programPacket address) sent) :
    TurnedAway image address e (Channel.copies i (Channel.syncPacket address) ++ sent)
  | untold {e : Error} {i j : Nat} {sent : Bytes} (kind : e.kind = .invalidFileType)
    (h : Channel.CopiesOf (Channel.headerPacket address image) sent) :
    TurnedAway image address e (Channel.copies i (Channel.syncPacket address) ++
      (Channel.copies j (Channel.programPacket address) ++ sent))

section Parts

variable {σ : Type} [SerialHost σ] {image : Image} {timing : Timing} {port : String}
  {address : UInt8} {size : Nat} {t : Trace} {r : Except Halt Unit}

/-- The first phase of the introduction moves no byte. -/
theorem Session.Opens.moves (h : Session.Opens port commandBaud r t) :
    t.sent = [] ∧ t.heard = [] := by
  cases h <;> exact ⟨rfl, rfl⟩

theorem Update.FindsValidator.found_ok
    (h : Update.FindsValidator (Channel.conversation (σ := σ) address image).sync (.ok ()) t) :
    t.Traffic ∧ ∃ n, t.sent = Channel.copies n (Channel.syncPacket address) := by
  cases h with
  | found h =>
    obtain ⟨n, hsent⟩ := h.exchanged.2
    exact ⟨by simp [h.traffic, Entry.IsControl], n, by simp [hsent, Entry.sent]⟩

theorem Update.FindsValidator.unfound {e : Error}
    (h : Update.FindsValidator (Channel.conversation (σ := σ) address image).sync
      (.error (.failed e)) t) :
    t.Traffic ∧ e.kind = .noValidator ∧ Channel.CopiesOf (Channel.syncPacket address) t.sent := by
  cases h with
  | refused h _ => exact ⟨h.traffic, rfl, h.sent⟩
  | unheard h => exact ⟨h.traffic, rfl, h.sent⟩

theorem asksSize_ok
    (h : Update.AsksSize (Channel.conversation (σ := σ) address image) size (.ok ()) t) :
    t.Traffic ∧ (∃ n, t.sent = Channel.copies n (Channel.programPacket address)) ∧
      Channel.Exchanged (Channel.programPacket address) address (fun reply =>
        reply.status? = some .ok ∧ RamStage.blockSize? reply.data = some size) t := by
  obtain ⟨hcalls, -⟩ := h
  exact ⟨hcalls.traffic, hcalls.exchanged.2, hcalls.exchanged.1⟩

theorem asksSize_fails {e : Error}
    (h : Update.AsksSize (Channel.conversation (σ := σ) address image) size
      (.error (.failed e)) t) :
    t.Traffic ∧ e.kind = .sendProgramCmd ∧
      Channel.CopiesOf (Channel.programPacket address) t.sent := by
  obtain ⟨hcalls, hkind⟩ := h
  exact ⟨hcalls.traffic, hkind e rfl, hcalls.sent⟩

theorem header_ok (h : (Channel.conversation (σ := σ) address image).header (.ok ()) t) :
    t.Traffic ∧ Channel.Exchanged (Channel.headerPacket address image) address
      (fun reply => reply.status? = some .ok) t := by
  obtain ⟨hcalls, -⟩ := h
  exact ⟨hcalls.traffic, hcalls.exchanged.1⟩

theorem header_fails {e : Error}
    (h : (Channel.conversation (σ := σ) address image).header (.error (.failed e)) t) :
    t.Traffic ∧ e.kind = .invalidFileType ∧
      Channel.CopiesOf (Channel.headerPacket address image) t.sent := by
  obtain ⟨hcalls, hkind⟩ := h
  exact ⟨hcalls.traffic, hkind e rfl, hcalls.sent⟩

theorem Runs.introduced
    (h : Runs (Update.introduction (Channel.conversation (σ := σ) address image) port size)
      (.ok ()) t) : Introduced image address size t := by
  obtain ⟨q₁, t₁, t, rfl, hq₁, hopen, h⟩ := h.first
  obtain ⟨q₂, t₂, t, rfl, hq₂, hsync, h⟩ := h.first
  obtain ⟨q₃, t₃, t, rfl, hq₃, hprogram, h⟩ := h.first
  obtain ⟨q₄, t₄, t, rfl, hq₄, hheader, h⟩ := h.first
  obtain ⟨htraffic₂, -⟩ := hsync.found_ok
  obtain ⟨htraffic₃, -, hasked⟩ := asksSize_ok hprogram
  obtain ⟨htraffic₄, htold⟩ := header_ok hheader
  cases h with
  | done hq₅ =>
    refine ⟨?_, ?_, ?_⟩
    · simp only [Trace.steady_append]
      exact ⟨hq₁.traffic.steady _, hopen.steady, hq₂.traffic.steady _, htraffic₂.steady _,
        hq₃.traffic.steady _, htraffic₃.steady _, hq₄.traffic.steady _, htraffic₄.steady _,
        hq₅.traffic.steady _⟩
    · exact (((((hasked.left _).right q₃).right t₂).right q₂).right t₁).right q₁
    · have hbehind := (((htold.left t).right q₄).right t₃).right q₃
      exact (((hbehind.right t₂).right q₂).right t₁).right q₁

/-- An introduction that failed has kept to the command rate, and sent packets only. -/
theorem Runs.turnedAway {e : Error}
    (h : Runs (Update.introduction (Channel.conversation (σ := σ) address image) port size)
      (.error (.failed e)) t) :
    t.Steady commandBaud ∧ TurnedAway image address e t.sent := by
  obtain ⟨q₁, t₁, rfl, hq₁, hopen⟩ | ⟨q₁, t₁, t, rfl, hq₁, hopen, h⟩ := h.failure
  · refine ⟨(hq₁.traffic.steady _).append hopen.steady, ?_⟩
    rw [Trace.sent_append, hq₁.sent, hopen.moves.1]
    cases hopen with
    | failed e => exact .unopened (Error.kind_asPortError port e)
  have hsteady₁ : ∀ {u : Trace}, u.Steady commandBaud →
      Trace.Steady commandBaud (q₁ ++ (t₁ ++ u)) :=
    fun hu => (hq₁.traffic.steady _).append (hopen.steady.append hu)
  have hsent₁ : ∀ u : Trace, Trace.sent (q₁ ++ (t₁ ++ u)) = u.sent := by
    intro u
    rw [hq₁.sent_before, Trace.sent_append, hopen.moves.1, List.nil_append]
  obtain ⟨q₂, t₂, rfl, hq₂, hsync⟩ | ⟨q₂, t₂, t, rfl, hq₂, hsync, h⟩ := h.failure
  · obtain ⟨htraffic, hkind, hsent⟩ := hsync.unfound
    refine ⟨hsteady₁ ((hq₂.traffic.append htraffic).steady _), ?_⟩
    rw [hsent₁, hq₂.sent_before]
    exact .unfound hkind hsent
  obtain ⟨htraffic₂, i, hsent₂⟩ := hsync.found_ok
  obtain ⟨q₃, t₃, rfl, hq₃, hprogram⟩ | ⟨q₃, t₃, t, rfl, hq₃, hprogram, h⟩ := h.failure
  · obtain ⟨htraffic, hkind, hsent⟩ := asksSize_fails hprogram
    have hsteady := (hq₂.traffic.append (htraffic₂.append (hq₃.traffic.append htraffic))).steady
    refine ⟨hsteady₁ (hsteady _), ?_⟩
    rw [hsent₁, hq₂.sent_before, Trace.sent_append, hsent₂, hq₃.sent_before]
    exact .unasked hkind hsent
  obtain ⟨htraffic₃, ⟨j, hsent₃⟩, -⟩ := asksSize_ok hprogram
  obtain ⟨q₄, t₄, rfl, hq₄, hheader⟩ | ⟨q₄, t₄, t, rfl, hq₄, hheader, h⟩ := h.failure
  · obtain ⟨htraffic, hkind, hsent⟩ := header_fails hheader
    have hsteady := (hq₂.traffic.append (htraffic₂.append (hq₃.traffic.append
      (htraffic₃.append (hq₄.traffic.append htraffic))))).steady
    refine ⟨hsteady₁ (hsteady _), ?_⟩
    rw [hsent₁, hq₂.sent_before, Trace.sent_append, hsent₂, hq₃.sent_before, Trace.sent_append,
      hsent₃, hq₄.sent_before]
    exact .untold hkind hsent
  · cases h

/-- The RAM stage leaves a switch, and its one turn behind that. -/
theorem Runs.ramTaken (h : Runs (Update.ramTransfer timing image) (.ok ()) t) :
    ∃ pause ram : Trace, t = pause ++ .switched image.header.transferBaud (.ok ()) :: ram ∧
      pause.Silent ∧ ram.Traffic ∧ ram.sent = image.ramStage ∧
      ram.heard = [image.ramStage.checksum] := by
  obtain ⟨q₁, t₁, t, rfl, hq₁, hswitch, h⟩ := h.first
  obtain ⟨q₂, t₂, t, rfl, hq₂, hplays, h⟩ := h.first
  cases h with
  | done hq₃ =>
    cases hswitch with
    | switched =>
      obtain ⟨hsent, hheard⟩ := hplays.whole
      refine ⟨q₁, q₂ ++ (t₂ ++ t), rfl, hq₁,
        hq₂.traffic.append (hplays.traffic.append hq₃.traffic), ?_, ?_⟩
      · simp [hq₂.sent, hsent, hq₃.sent, RamStage.turns, Turn.verified]
      · simp [hq₂.heard, hheard, hq₃.heard, RamStage.turns, Turn.verified]

/-- The main stage closes the port, opens and switches it again, and then plays its turns;
or that did not succeed, and the port itself failed. -/
theorem Runs.mainReached (h : Runs (Update.mainTransfer timing image port size) r t) :
    (∃ quiet between main : Trace, t = quiet ++ .closed port (.ok ()) :: (between ++
        .switched image.header.transferBaud (.ok ()) :: main) ∧ quiet.Silent ∧
      between.Steady commandBaud ∧ between.sent = [] ∧ between.heard = [] ∧
      Plays (MainStage.turns timing image size) r main) ∨
    ∃ e, r = .error (.failed e) ∧ (e.kind = .port ∨ Entry.closed port (.error e) ∈ t ∨
      Entry.switched image.header.transferBaud (.error e) ∈ t) := by
  rw [Update.mainTransfer] at h
  cases h with
  | stop hq₁ hreopen =>
    refine .inr ?_
    cases hreopen with
    | unclosed closing =>
      cases closing with
      | failed e => exact ⟨e, rfl, .inr (.inl (by simp))⟩
    | unopened _ _ opening =>
      cases opening with
      | failed e => exact ⟨_, rfl, .inl (Error.kind_asPortError port e)⟩
  | @next _ _ _ q₁ t₁ t hq₁ hreopen h =>
    cases hreopen with
    | @reopened t₁ pause u closing hp opening =>
      cases closing
      cases opening
      cases h with
      | stop hq₂ hswitch =>
        cases hswitch with
        | failed e => exact .inr ⟨e, rfl, .inr (.inr (by simp))⟩
      | @next _ _ _ q₂ t₂ t hq₂ hswitch h =>
        cases hswitch
        have hmain : Plays (MainStage.turns timing image size) r t := by
          cases h with
          | stop hq₃ hplays => exact hplays.silence hq₃
          | next hq₃ hplays h =>
            cases h with
            | done hq₄ =>
              have hall := hplays.append (.finished hq₄)
              rw [List.append_nil] at hall
              exact hall.silence hq₃
        refine .inl ⟨q₁, pause ++ (.opened port commandBaud (.ok ()) ::
          .noted (.reopened port commandBaud) :: q₂), t, by simp, hq₁, ?_, ?_, ?_, hmain⟩
        · have hopened : Trace.Steady commandBaud
              [.opened port commandBaud (.ok ()), .noted (.reopened port commandBaud)] :=
            ⟨by simp, by simp⟩
          exact (hp.traffic.steady _).append (hopened.append (hq₂.traffic.steady _))
        · simp [hp.sent, Entry.sent, hq₂.sent]
        · simp [hp.heard, Entry.heard?, hq₂.heard]

theorem Runs.mainTaken (h : Runs (Update.mainTransfer timing image port size) (.ok ()) t) :
    ∃ quiet between main : Trace, t = quiet ++ .closed port (.ok ()) :: (between ++
        .switched image.header.transferBaud (.ok ()) :: main) ∧ quiet.Silent ∧
      between.Steady commandBaud ∧ between.sent = [] ∧ between.heard = [] ∧
      Plays (MainStage.turns timing image size) (.ok ()) main := by
  obtain h | ⟨_, hr, -⟩ := h.mainReached
  · exact h
  · cases hr

end Parts

end SspUpdate
