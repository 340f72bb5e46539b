import SspUpdate.Proofs.SessionCalls
import SspUpdate.Proofs.Turns
import SspUpdate.Wire

/-!
# The faultless wire

A simulated wire whose calls never fail and whose receive queue is only what
was put there at the start. Every call on it moves bytes in one way only: what
is written is taken, and what is read is the front of the queue. A list of
turns on such a wire therefore succeeds exactly when the queue begins with the
right answers, and otherwise ends at the first turn whose answer is missing or
wrong.
-/

namespace SspUpdate

/-- The bytes of a writing event. -/
def Wire.Event.written : Wire.Event → Bytes
  | .wrote data => data
  | _ => []

namespace Wire

/-- All bytes the wire took, in order. -/
def written (w : Wire) : Bytes := w.events.reverse.flatMap Event.written

/-- No call fails, every write takes something, and no reply is scripted. -/
structure Faultless (w : Wire) : Prop where
  faults : w.faults = []
  replies : w.replies = []
  emptyError : w.emptyError = none
  writeLimit : w.writeLimit ≠ some 0

/-- No call fails, and every write takes something; replies may be scripted. -/
structure Working (w : Wire) : Prop where
  faults : w.faults = []
  emptyError : w.emptyError = none
  writeLimit : w.writeLimit ≠ some 0

theorem Faultless.working {w : Wire} (h : w.Faultless) : w.Working :=
  ⟨h.faults, h.emptyError, h.writeLimit⟩

/-- What no call but a flush changes, and the clock goes on. -/
structure Keeps (w w' : Wire) : Prop where
  faults : w'.faults = w.faults
  replies : w'.replies = w.replies
  emptyError : w'.emptyError = w.emptyError
  writeLimit : w'.writeLimit = w.writeLimit
  clock : w.clock ≤ w'.clock

theorem Keeps.refl (w : Wire) : w.Keeps w := ⟨rfl, rfl, rfl, rfl, Nat.le_refl _⟩

theorem Keeps.trans {w w' w'' : Wire} (h : w.Keeps w') (h' : w'.Keeps w'') : w.Keeps w'' :=
  ⟨h'.faults.trans h.faults, h'.replies.trans h.replies, h'.emptyError.trans h.emptyError,
    h'.writeLimit.trans h.writeLimit, Nat.le_trans h.clock h'.clock⟩

theorem Keeps.working {w w' : Wire} (h : w.Keeps w') (hw : w.Working) : w'.Working :=
  ⟨h.faults.trans hw.faults, h.emptyError.trans hw.emptyError, h.writeLimit ▸ hw.writeLimit⟩

theorem Keeps.faultless {w w' : Wire} (h : w.Keeps w') (hw : w.Faultless) : w'.Faultless :=
  ⟨h.faults.trans hw.faults, h.replies.trans hw.replies, h.emptyError.trans hw.emptyError,
    h.writeLimit ▸ hw.writeLimit⟩

/-- What a stretch of calls leaves: some bytes were taken, and some were handed out. -/
structure Passes (w : Wire) (sent heard : Bytes) (w' : Wire) : Prop where
  faultless : w'.Faultless
  written : w'.written = w.written ++ sent
  queue : w.queue = heard ++ w'.queue

theorem Passes.refl {w : Wire} (h : w.Faultless) : w.Passes [] [] w :=
  ⟨h, (List.append_nil _).symm, rfl⟩

theorem Passes.idle {w w' : Wire} (h : w'.Faultless) (hwritten : w'.written = w.written)
    (hqueue : w'.queue = w.queue) : w.Passes [] [] w' :=
  ⟨h, hwritten.trans (List.append_nil _).symm, hqueue.symm⟩

theorem Passes.trans {w w' w'' : Wire} {sent heard sent' heard' : Bytes}
    (h : w.Passes sent heard w') (h' : w'.Passes sent' heard' w'') :
    w.Passes (sent ++ sent') (heard ++ heard') w'' where
  faultless := h'.faultless
  written := by rw [h'.written, h.written, List.append_assoc]
  queue := by rw [h.queue, h'.queue, List.append_assoc]

theorem Faultless.count {w : Wire} (h : w.Faultless) (call : Call) : (w.count call).Faultless :=
  ⟨h.faults, h.replies, h.emptyError, h.writeLimit⟩

theorem Faultless.log {w : Wire} (h : w.Faultless) (e : Event) : (w.log e).Faultless :=
  ⟨h.faults, h.replies, h.emptyError, h.writeLimit⟩

theorem written_log (w : Wire) (e : Event) : (w.log e).written = w.written ++ e.written := by
  simp [written, Wire.log]

theorem answer_of_faults_nil {ε α : Type} {w : Wire} (h : w.faults = []) (call : Call)
    (onDefect : Defect → Except ε α) (act : Wire → Except ε α × Wire) :
    Wire.answer call onDefect act w = act (w.count call) := by
  simp only [Wire.answer, defect?, h, List.find?_nil, Option.map_none]

theorem Faultless.answer {ε α : Type} {w : Wire} (h : w.Faultless) (call : Call)
    (onDefect : Defect → Except ε α) (act : Wire → Except ε α × Wire) :
    Wire.answer call onDefect act w = act (w.count call) :=
  answer_of_faults_nil h.faults call onDefect act

/-- A reading answers the front of the queue, or runs out of patience first. -/
inductive Reads (patience ms : Nat) (w w' : Wire) : Except Halt (Option UInt8) → Prop where
  | byte {b : UInt8} (queue : w.queue = b :: w'.queue) : Reads patience ms w w' (.ok (some b))
  | nothing (queue : w.queue = []) (left : w'.queue = []) : Reads patience ms w w' (.ok none)
  | unfinished (queue : w'.queue = w.queue) (h : patience < ms + 2) :
    Reads patience ms w w' (.error (.unfinished .patience))

/-- Waiting sees a byte at once, and an empty queue until the limit has passed. -/
theorem await_ends {w : Wire} (h : w.Working) (start ms patience : Nat) (hstart : start ≤ w.clock)
    (hclock : w.clock ≤ start + ms + 1) : ∃ a w', ByteSource.await start ms patience w = (a, w') ∧
      w.Keeps w' ∧ w'.written = w.written ∧ w'.queue = w.queue ∧
      ((a = .ok true ∧ w.queue ≠ [] ∧ 0 < patience) ∨
        (a = .ok false ∧ w.queue = []) ∨
        (a = .error (.unfinished .patience) ∧ patience + w.clock < start + ms + 2)) := by
  induction patience generalizing w with
  | zero => exact ⟨_, w, rfl, .refl w, rfl, rfl, .inr (.inr ⟨rfl, by omega⟩)⟩
  | succ patience ih =>
    rcases hq : w.queue with _ | ⟨b, rest⟩
    · have hnone : (ByteSource.available w : Except Error Bool × Wire) = (.ok false, w) := by
        simp [ByteSource.available, available, hq, h.emptyError]
      by_cases hlate : ms < w.clock - start
      · refine ⟨.ok false, w, ?_, .refl w, rfl, hq, .inr (.inl ⟨rfl, rfl⟩)⟩
        simp only [ByteSource.await, hnone, ByteSource.clock, if_pos hlate]
      · have hpoll : ByteSource.pollInterval = 1 := rfl
        have hslept : w.Keeps { w with clock := w.clock + ByteSource.pollInterval } :=
          ⟨rfl, rfl, rfl, rfl, Nat.le_add_right _ _⟩
        obtain ⟨a, w', he, hk, hwritten, hqueue, ha⟩ :=
          ih (hslept.working h) (by dsimp only; omega) (by dsimp only; omega)
        refine ⟨a, w', ?_, hslept.trans hk, hwritten, hqueue.trans hq, ?_⟩
        · simp only [ByteSource.await, hnone, ByteSource.clock, if_neg hlate]
          exact he
        · dsimp only at ha
          obtain ⟨-, hne, -⟩ | ⟨ha, -⟩ | ⟨ha, hlt⟩ := ha
          · exact absurd hq hne
          · exact .inr (.inl ⟨ha, rfl⟩)
          · exact .inr (.inr ⟨ha, by omega⟩)
    · have hsome : (ByteSource.available w : Except Error Bool × Wire) = (.ok true, w) := by
        simp [ByteSource.available, available, hq]
      refine ⟨.ok true, w, ?_, .refl w, rfl, hq, .inl ⟨rfl, by simp, by omega⟩⟩
      simp only [ByteSource.await, hsome]

theorem readWithin_ends {w : Wire} (h : w.Working) (patience ms : Nat) :
    ∃ a w', ByteSource.readWithin patience ms w = (a, w') ∧ w.Keeps w' ∧
      w'.written = w.written ∧ Reads patience ms w w' a := by
  obtain ⟨a, w₁, he, hk, hwritten, hqueue, ha⟩ :=
    await_ends h w.clock ms patience (Nat.le_refl _) (by omega)
  have hawait : ByteSource.await (ByteSource.clock w) ms patience w = (a, w₁) := he
  obtain ⟨rfl, hne, hpos⟩ | ⟨rfl, hq⟩ | ⟨rfl, hlt⟩ := ha
  · obtain ⟨b, rest, hq⟩ := List.exists_cons_of_ne_nil hne
    obtain ⟨p, rfl⟩ := Nat.exists_eq_succ_of_ne_zero (Nat.ne_of_gt hpos)
    have hread : (ByteSource.read 1 w₁ : Except IoError Bytes × Wire) =
        (.ok [b], { w₁.count .read with queue := rest }) := by
      simp [ByteSource.read, read, answer_of_faults_nil (hk.working h).faults, Wire.count, hqueue,
        hq]
    refine ⟨.ok (some b), { w₁.count .read with queue := rest }, ?_, ?_, hwritten, .byte hq⟩
    · simp only [ByteSource.readWithin, hawait, ByteSource.readByte, hread]
    · exact hk.trans ⟨rfl, rfl, rfl, rfl, Nat.le_refl _⟩
  · refine ⟨.ok none, w₁, ?_, hk, hwritten, .nothing hq (hqueue.trans hq)⟩
    simp only [ByteSource.readWithin, hawait]
  · refine ⟨.error (.unfinished .patience), w₁, ?_, hk, hwritten, .unfinished hqueue (by omega)⟩
    simp only [ByteSource.readWithin, hawait]

/-- A write takes a first part of the data, and not nothing. -/
theorem write_ends {w : Wire} (h : w.Working) (data : Bytes) :
    ∃ n, write data w = (.ok n, (w.count .write).log (.wrote (data.take n))) ∧
      (data ≠ [] → n ≠ 0) := by
  rw [write, answer_of_faults_nil h.faults]
  rcases hlimit : w.writeLimit with _ | limit
  · have hcount : (w.count .write).writeLimit = none := hlimit
    refine ⟨data.length, ?_, fun hne hn => hne (List.eq_nil_of_length_eq_zero hn)⟩
    simp only [hcount, List.take_length]
  · have hcount : (w.count .write).writeLimit = some limit := hlimit
    have hpos : limit ≠ 0 := fun h₀ => h.writeLimit (h₀ ▸ hlimit)
    refine ⟨(data.take limit).length, ?_, fun hne hn => ?_⟩
    · simp only [hcount, List.length_take, Prod.mk.injEq, true_and]
      congr 2
      rw [List.take_eq_take_iff]
      omega
    · have hlen := List.length_pos_iff.mpr hne
      rw [List.length_take] at hn
      omega

end Wire

/-- What a faultless wire with `queue` in its receive queue never answers. -/
structure Entry.Fair (patience : Nat) (queue : Bytes) (e : Entry) : Prop where
  works : ¬ e.Fails
  sends : ∀ h, ¬ e.Breaks h
  hears : ∀ ms a, e = .received ms a → ms + 2 ≤ patience → a = .ok queue.head?

/-- Reading hands out what it answers. -/
theorem Wire.Reads.passes {patience ms : Nat} {w w' : Wire} {a : Except Halt (Option UInt8)}
    (h : Reads patience ms w w' a) (hf : w'.Faultless) (hwritten : w'.written = w.written) :
    w.Passes [] (Entry.received ms a).heard?.toList w' ∧
      (Entry.received ms a).Fair patience w.queue := by
  cases h with
  | byte hq =>
    refine ⟨⟨hf, hwritten.trans (List.append_nil _).symm, hq⟩, nofun, nofun, fun ms' a ha _ => ?_⟩
    cases ha
    rw [hq]
    rfl
  | nothing hq hleft =>
    refine ⟨.idle hf hwritten (hleft.trans hq.symm), nofun, nofun, fun ms' a ha _ => ?_⟩
    cases ha
    rw [hq]
    rfl
  | unfinished hq hlt =>
    refine ⟨.idle hf hwritten hq, nofun, nofun, fun ms' a ha hle => ?_⟩
    cases ha
    omega

theorem Entry.Moves.passes {patience : Nat} {w w' : Wire} {e : Entry} (h : e.Moves patience w w')
    (hw : w.Faultless) : w.Passes e.sent e.heard?.toList w' ∧ e.Fair patience w.queue := by
  cases e with
  | opened port baud answer =>
    have h : Wire.openPort port baud w = (answer, w') := h
    rw [Wire.openPort, hw.answer] at h
    cases h
    refine ⟨⟨?_, Wire.written_log _ _, rfl⟩, nofun, nofun, nofun⟩
    exact ⟨hw.faults, hw.replies, hw.emptyError, hw.writeLimit⟩
  | closed port answer =>
    have h : Wire.closePort w = (answer, w') := h
    rw [Wire.closePort, hw.answer] at h
    cases h
    exact ⟨⟨(hw.count _).log _, Wire.written_log _ _, rfl⟩, nofun, nofun, nofun⟩
  | switched baud answer =>
    have h : Wire.setBaud baud w = (answer, w') := h
    rw [Wire.setBaud, hw.answer] at h
    cases h
    refine ⟨⟨?_, Wire.written_log _ _, rfl⟩, nofun, nofun, nofun⟩
    exact ⟨hw.faults, hw.replies, hw.emptyError, hw.writeLimit⟩
  | wrote data answer =>
    obtain ⟨n, hwrite, hpos⟩ := Wire.write_ends hw.working data
    have h : Wire.write data w = (answer, w') := h
    rw [hwrite] at h
    cases h
    refine ⟨⟨(hw.count _).log _, Wire.written_log _ _, rfl⟩, nofun, fun h hb => ?_, nofun⟩
    cases hb with
    | stuck _ hne => exact hpos hne rfl
  | flushed answer =>
    have h : Wire.flush w = (answer, w') := h
    have hcount : (w.count .flush).replies = [] := hw.replies
    rw [Wire.flush, hw.answer] at h
    simp only [hcount, Prod.mk.injEq] at h
    obtain ⟨rfl, rfl⟩ := h
    exact ⟨.idle (hw.count _) rfl rfl, nofun, nofun, nofun⟩
  | received ms answer =>
    obtain ⟨a, w₁, he, hk, hwritten, hreads⟩ := Wire.readWithin_ends hw.working patience ms
    have h : ByteSource.readWithin patience ms w = (answer, w') := h
    cases he.symm.trans h
    exact hreads.passes (hk.faultless hw) hwritten
  | slept ms =>
    cases (h : { w with clock := w.clock + ms } = w')
    exact ⟨.idle ⟨hw.faults, hw.replies, hw.emptyError, hw.writeLimit⟩ rfl rfl, nofun, nofun, nofun⟩
  | stopAsked answer =>
    have h : Wire.stopRequested w = (answer, w') := h
    rw [Wire.stopRequested] at h
    split at h <;> cases h
    · exact ⟨.refl hw, nofun, nofun, nofun⟩
    · exact ⟨.refl hw, nofun, nofun, nofun⟩
    · refine ⟨.idle ?_ rfl rfl, nofun, nofun, nofun⟩
      exact ⟨hw.faults, hw.replies, hw.emptyError, hw.writeLimit⟩
  | progressed p =>
    cases (h : w.log (.progressed p) = w')
    exact ⟨⟨hw.log _, Wire.written_log _ _, rfl⟩, nofun, nofun, nofun⟩
  | noted n =>
    cases (h : w = w')
    exact ⟨.refl hw, nofun, nofun, nofun⟩

theorem Path.passes {patience : Nat} {w w' : Wire} {t : Trace} (h : Path patience w t w')
    (hw : w.Faultless) : w.Passes t.sent t.heard w' ∧
      ∀ e ∈ t, ¬ e.Fails ∧ ∀ h, ¬ e.Breaks h := by
  induction h with
  | nil => exact ⟨.refl hw, by simp⟩
  | cons head _ ih =>
    obtain ⟨hpass, hfair⟩ := head.passes hw
    obtain ⟨hpasses, hall⟩ := ih hpass.faultless
    rw [Trace.sent_cons, Trace.heard_cons]
    exact ⟨hpass.trans hpasses, List.forall_mem_cons.mpr ⟨⟨hfair.works, hfair.sends⟩, hall⟩⟩

theorem Path.split {σ : Type} [SerialHost σ] {patience : Nat} {s s'' : σ} {t u : Trace}
    (h : Path patience s (t ++ u) s'') : ∃ s', Path patience s t s' ∧ Path patience s' u s'' := by
  induction t generalizing s with
  | nil => exact ⟨s, .nil s, h⟩
  | cons e t ih =>
    cases h with
    | cons head tail =>
      obtain ⟨s', ht, hu⟩ := ih tail
      exact ⟨s', .cons head ht, hu⟩

/-- What comes of turns that face a queue of answers: how they end, what was
sent, and what is left of the queue. -/
inductive Faces (us : List Turn) (queue : Bytes) : Except Halt Unit → Bytes → Bytes → Prop where
  | through {left : Bytes} (h : queue = us.map Turn.reply ++ left) :
    Faces us queue (.ok ()) (us.flatMap Turn.data) left
  | stopped {k : Nat} {u : Turn} (turn : us[k]? = some u)
    (before : (us.take k).map Turn.reply = queue.take k) (here : queue[k]? ≠ some u.reply) :
    Faces us queue (.error (.failed (u.failure queue[k]?))) ((us.take (k + 1)).flatMap Turn.data)
      (queue.drop (k + 1))

namespace Faces

variable {us vs : List Turn} {r : Except Halt Unit} {queue sent left : Bytes}

theorem none (queue : Bytes) : Faces [] queue (.ok ()) [] queue := .through rfl

theorem cons {u : Turn} (h : Faces us queue r sent left) :
    Faces (u :: us) (u.reply :: queue) r (u.data ++ sent) left := by
  cases h with
  | through h => exact .through (by simp [h])
  | stopped turn before here => exact .stopped (k := _ + 1) turn (by simp [before]) here

theorem append (h : Faces us queue (.ok ()) sent left) {r : Except Halt Unit} {sent' left' : Bytes}
    (h' : Faces vs left r sent' left') : Faces (us ++ vs) queue r (sent ++ sent') left' := by
  cases h with
  | through h =>
    subst h
    induction us with
    | nil => exact h'
    | cons u us ih =>
      rw [List.flatMap_cons, List.append_assoc]
      exact ih.cons

theorem extend {e : Halt} (h : Faces us queue (.error e) sent left) (vs : List Turn) :
    Faces (us ++ vs) queue (.error e) sent left := by
  cases h with
  | @stopped k u turn before here =>
    have hk : k < us.length := (List.getElem?_eq_some_iff.mp turn).1
    have hturn : (us ++ vs)[k]? = some u := by rw [List.getElem?_append_left hk, turn]
    have hbefore : (us ++ vs).take k = us.take k := List.take_append_of_le_length (by omega)
    have hsent : (us ++ vs).take (k + 1) = us.take (k + 1) := List.take_append_of_le_length hk
    rw [← hsent]
    exact .stopped hturn (hbefore ▸ before) here

end Faces

section Playing

variable {patience : Nat} {w w' : Wire} {t : Trace} {r : Except Halt Unit}

/-- The answer of a turn is the front of the queue. -/
theorem Turn.Answers.faces {u : Turn} (h : u.Answers r t) (hw : w.Faultless)
    (hp : Path patience w t w') (hlimit : u.limit + 2 ≤ patience) :
    (r = .ok () ∧ w.queue = u.reply :: w'.queue) ∨
      (w.queue.head? ≠ some u.reply ∧ r = .error (.failed (u.failure w.queue.head?)) ∧
        w'.queue = w.queue.drop 1) := by
  have hqueue := (hp.passes hw).1.queue
  cases h with
  | right ht => exact .inl ⟨rfl, by simpa [Entry.heard?, ht.heard] using hqueue⟩
  | wrong b hb =>
    have hq : w.queue = b :: w'.queue := by simpa [Entry.heard?] using hqueue
    refine .inr ⟨?_, ?_, ?_⟩
    · rw [hq]
      exact fun heq => hb (Option.some.inj heq)
    · rw [hq]
      rfl
    · rw [hq]
      rfl
  | silence =>
    cases hp with
    | cons head tail =>
      have hnone : Except.ok none = (Except.ok w.queue.head? : Except Halt (Option UInt8)) :=
        (head.passes hw).2.hears _ _ rfl hlimit
      have hq : w.queue = [] := List.head?_eq_none_iff.mp (Except.ok.inj hnone).symm
      have hq' : w'.queue = [] := by simpa [Entry.heard?, hq] using hqueue.symm
      rw [hq, hq']
      exact .inr ⟨by simp, rfl, rfl⟩
  | broken h =>
    cases hp with
    | cons head tail => cases (head.passes hw).2.hears _ _ rfl hlimit

/-- On a faultless wire sending ends well. -/
theorem Sends.faces {data : Bytes} (h : Sends data r t) (hw : w.Faultless)
    (hp : Path patience w t w') : r = .ok () ∧ t.sent = data ∧ w'.queue = w.queue := by
  obtain ⟨hpass, hall⟩ := hp.passes hw
  cases r with
  | ok _ => exact ⟨rfl, h.whole rfl, by simpa [h.heard] using hpass.queue.symm⟩
  | error e =>
    obtain ⟨x, hx, hb⟩ := h.broken e rfl
    exact absurd hb ((hall x hx).2 e)

theorem Plays.faces {us : List Turn} (h : Plays us r t) (hlimit : ∀ u ∈ us, u.limit + 2 ≤ patience)
    (hw : w.Faultless) (hp : Path patience w t w') : Faces us w.queue r t.sent w'.queue := by
  induction h generalizing w with
  | finished h =>
    have hqueue : w.queue = w'.queue := by simpa [h.heard] using (hp.passes hw).1.queue
    rw [h.sent, hqueue]
    exact .none _
  | turn sent answered rest ih =>
    obtain ⟨w₁, hp₁, hp⟩ := hp.split
    obtain ⟨w₂, hp₂, hp₃⟩ := hp.split
    obtain ⟨-, hsent, hq₁⟩ := sent.faces hw hp₁
    have hw₁ := (hp₁.passes hw).1.faultless
    obtain ⟨-, hq₂⟩ | ⟨-, hr, -⟩ := answered.faces hw₁ hp₂ (hlimit _ List.mem_cons_self)
    · have hrest := ih (fun u hu => hlimit u (List.mem_cons_of_mem _ hu))
        (hp₂.passes hw₁).1.faultless hp₃
      rw [Trace.sent_append, Trace.sent_append, hsent, answered.sent, List.nil_append, ← hq₁, hq₂]
      exact hrest.cons
    · cases hr
  | @unanswered u us e t t' sent answered =>
    obtain ⟨w₁, hp₁, hp₂⟩ := hp.split
    obtain ⟨-, hsent, hq₁⟩ := sent.faces hw hp₁
    have hw₁ := (hp₁.passes hw).1.faultless
    obtain ⟨hr, -⟩ | ⟨hne, hr, hq₂⟩ := answered.faces hw₁ hp₂ (hlimit _ List.mem_cons_self)
    · cases hr
    · rw [hq₁, List.head?_eq_getElem?] at hne hr
      have hstop : Faces (u :: us) w.queue _ _ _ := .stopped (k := 0) rfl rfl hne
      have hdata : ((u :: us).take 1).flatMap Turn.data = u.data := by simp
      rw [Trace.sent_append, hsent, answered.sent, List.append_nil, hr, hq₂, hq₁, ← hdata]
      exact hstop
  | unsent sent =>
    cases (sent.faces hw hp).1

end Playing

end SspUpdate
