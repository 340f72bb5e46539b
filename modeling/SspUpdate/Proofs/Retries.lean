import Mathlib.Control.Monad.Basic
import SspUpdate.Proofs.FaultlessWire
import SspUpdate.Proofs.Hearing
import SspUpdate.Proofs.Reception

/-!
# How often a call tries

A call on a wire that works, with whatever bytes wait at the start and
whatever replies come after later copies of its packet. Each attempt begins
with a new decoder at what the attempts before it have left of the queue, so
what all of them hear is known beforehand. The call ends with the first
attempt that hears a packet from its device; if none does, all attempts are
made, and the last damage is reported, or a timeout if there was none.
-/

namespace SspUpdate

namespace Decoder

/-- What a listener hears first: a packet from the address, damage before it, or nothing. -/
def finds (address : UInt8) (d : Decoder) (bytes : Bytes) : Option (Except Error Packet) :=
  (d.listen address bytes).map Prod.fst

/-- The bytes that a listener does not get to. -/
def leaves (address : UInt8) (d : Decoder) (bytes : Bytes) : Bytes :=
  ((d.listen address bytes).map Prod.snd).getD []

theorem listen_suffix {address : UInt8} {d : Decoder} {bytes rest : Bytes}
    {found : Except Error Packet} (h : d.listen address bytes = some (found, rest)) :
    rest <:+ bytes := by
  induction bytes generalizing d with
  | nil => cases h
  | cons b bytes ih =>
    simp only [listen] at h
    split at h
    · cases h
      exact List.suffix_cons _ _
    · exact (ih h).trans (List.suffix_cons _ _)
    · split at h
      · cases h
        exact List.suffix_cons _ _
      · exact (ih h).trans (List.suffix_cons _ _)

theorem leaves_suffix (address : UInt8) (d : Decoder) (bytes : Bytes) :
    d.leaves address bytes <:+ bytes := by
  rw [leaves]
  rcases hl : d.listen address bytes with _ | ⟨found, rest⟩
  · exact List.nil_suffix
  · exact listen_suffix hl

/-- What is met in listening is a packet from the address, which stands encoded before the bytes
that are left, or a wrong checksum. -/
theorem listen_cases {address : UInt8} {d : Decoder} {before bytes rest : Bytes}
    {found : Except Error Packet} (hd : Collects d before)
    (h : d.listen address bytes = some (found, rest)) :
    (∃ p, found = .ok p ∧ p.address = address ∧
      ∃ gap frame, p.encode = .ok frame ∧ before ++ bytes = gap ++ frame ++ rest) ∨
    ∃ expected received, found = .error (.crcMismatch expected received) := by
  induction bytes generalizing d before with
  | nil => cases h
  | cons b bytes ih =>
    have hgives := push_gives hd b
    rw [List.append_cons]
    simp only [listen] at h
    generalize d.push b = given at hgives h
    cases hgives with
    | nothing collects => exact ih collects h
    | damage expected received =>
      cases h
      exact .inr ⟨expected, received, rfl⟩
    | @packet p frame encoded whole =>
      dsimp only at h
      split at h
      · next haddress =>
        cases h
        obtain ⟨gap, hgap⟩ := whole
        exact .inl ⟨p, rfl, haddress, gap, frame, encoded, by rw [hgap]⟩
      · exact ih (.idle _) h

end Decoder

/-- One attempt: the bytes that wait, what it finds in them, and what it leaves of them. -/
structure Hearing where
  waiting : Bytes
  found : Option (Except Error Packet)
  left : Bytes

/-- An attempt of a call to `address` begins with a new decoder. -/
def hear (address : UInt8) (waiting : Bytes) : Hearing :=
  ⟨waiting, Decoder.idle.finds address waiting, Decoder.idle.leaves address waiting⟩

/-- The next attempts, one after the other: each hears what the one before has left, and behind
that the next reply. -/
def hearings (address : UInt8) : (attempts : Nat) → (queue : Bytes) → (replies : List Bytes) →
    List Hearing
  | 0, _, _ => []
  | attempts + 1, queue, replies =>
    let first := hear address (queue ++ replies.headD [])
    first :: hearings address attempts first.left replies.tail

namespace Hearing

/-- What an attempt finds is a packet from the address that stands encoded in what waits, or a
wrong checksum. Silence leaves nothing. -/
structure Sound (address : UInt8) (h : Hearing) : Prop where
  packet : ∀ p, h.found = some (.ok p) → p.address = address ∧
    ∃ gap frame, p.encode = .ok frame ∧ h.waiting = gap ++ frame ++ h.left
  damage : ∀ e, h.found = some (.error e) → ∃ expected received, e = .crcMismatch expected received
  silence : h.found = none → h.left = []

/-- The attempt ended in silence or with a wrong checksum. -/
def Missed (h : Hearing) : Prop :=
  h.found = none ∨ ∃ expected received, h.found = some (.error (.crcMismatch expected received))

/-- The damage that was met, if it was. -/
def damage? (h : Hearing) : Option Error :=
  match h.found with
  | some (.error e) => some e
  | _ => none

end Hearing

theorem hear_sound (address : UInt8) (waiting : Bytes) : (hear address waiting).Sound address := by
  have hfound : (hear address waiting).found = Decoder.idle.finds address waiting := rfl
  have hleft : (hear address waiting).left = Decoder.idle.leaves address waiting := rfl
  rw [Decoder.finds] at hfound
  rw [Decoder.leaves] at hleft
  rcases hl : Decoder.idle.listen address waiting with _ | ⟨found, rest⟩
  · rw [hl] at hfound hleft
    exact ⟨fun p hp => (nomatch hfound.symm.trans hp), fun e he => (nomatch hfound.symm.trans he),
      fun _ => hleft⟩
  · rw [hl] at hfound hleft
    refine ⟨fun p hp => ?_, fun e he => ?_, fun hnone => (nomatch hfound.symm.trans hnone)⟩
    · cases hfound.symm.trans hp
      obtain ⟨_, ⟨⟩, haddress, hwhole⟩ | ⟨_, _, hdamage⟩ := Decoder.listen_cases (.idle []) hl
      · rw [hleft]
        exact ⟨haddress, hwhole⟩
      · cases hdamage
    · cases hfound.symm.trans he
      obtain ⟨_, hpacket, -⟩ | ⟨expected, received, hdamage⟩ :=
        Decoder.listen_cases (.idle []) hl
      · cases hpacket
      · exact ⟨expected, received, Except.error.inj hdamage⟩

theorem length_hearings (address : UInt8) (attempts : Nat) (queue : Bytes) (replies : List Bytes) :
    (hearings address attempts queue replies).length = attempts := by
  induction attempts generalizing queue replies with
  | zero => rfl
  | succ attempts ih => simp [hearings, ih]

theorem sound_of_mem_hearings {address : UInt8} {attempts : Nat} {queue : Bytes}
    {replies : List Bytes} {h : Hearing} (hmem : h ∈ hearings address attempts queue replies) :
    h.Sound address := by
  induction attempts generalizing queue replies with
  | zero => cases hmem
  | succ attempts ih =>
    obtain rfl | hmem := List.mem_cons.mp hmem
    · exact hear_sound _ _
    · exact ih hmem

namespace Wire

/-- A byte that waits is read, and an empty queue answers that there is none. -/
theorem readWithin_head {w : Wire} (h : w.Working) {patience ms : Nat} (hms : ms + 2 ≤ patience) :
    ∃ w', ByteSource.readWithin patience ms w = (.ok w.queue.head?, w') ∧ w.Keeps w' ∧
      w'.written = w.written ∧ w'.queue = w.queue.drop 1 := by
  obtain ⟨a, w', he, hk, hwritten, hreads⟩ := readWithin_ends h patience ms
  cases hreads with
  | byte hq => exact ⟨w', by rw [he, hq]; rfl, hk, hwritten, by rw [hq]; rfl⟩
  | nothing hq hleft => exact ⟨w', by rw [he, hq]; rfl, hk, hwritten, by rw [hq, hleft]; rfl⟩
  | unfinished hq hlt => omega

/-- The wire takes any data, piece by piece. -/
theorem takes {w : Wire} (h : w.Working) (data : Bytes) :
    ∃ w', Takes data w w' ∧ w.Keeps w' ∧ w'.queue = w.queue ∧ w'.written = w.written ++ data := by
  by_cases hd : data = []
  · subst hd
    exact ⟨w, .nothing w, .refl w, rfl, (List.append_nil _).symm⟩
  obtain ⟨n, hwrite, hpos⟩ := write_ends h data
  obtain ⟨n, rfl⟩ := Nat.exists_eq_succ_of_ne_zero (hpos hd)
  have hone : w.Keeps ((w.count .write).log (.wrote (data.take (n + 1)))) :=
    ⟨rfl, rfl, rfl, rfl, Nat.le_refl _⟩
  have hshort : (data.drop (n + 1)).length < data.length := by
    have hlength := List.length_pos_iff.mpr hd
    rw [List.length_drop]
    omega
  obtain ⟨w', htakes, hk, hqueue, hwritten⟩ := takes (hone.working h) (data.drop (n + 1))
  refine ⟨w', .part hd hwrite htakes, hone.trans hk, hqueue, ?_⟩
  have hfirst : (w.count .write).written = w.written := rfl
  rw [hwritten, written_log, hfirst, List.append_assoc]
  exact congrArg (w.written ++ ·) (List.take_append_drop (n + 1) data)
termination_by data.length

/-- A packet that was sent: it is written, and the next reply is behind what waits. -/
structure Prompted (w : Wire) (packet : Bytes) (w' : Wire) : Prop where
  working : w'.Working
  written : w'.written = w.written ++ packet
  queue : w'.queue = w.queue ++ w.replies.headD []
  replies : w'.replies = w.replies.tail

theorem send_prompts {l : Line Wire} (h : l.host.Working) (packet : Bytes) :
    Yields (Line.send packet) l () (l.host.Prompted packet) := by
  obtain ⟨w₁, htakes, hk, hqueue, hwritten⟩ := takes h packet
  have hworks := hk.working h
  have hcount : (w₁.count .flush).replies = l.host.replies := hk.replies
  obtain ⟨w₂, hflush, hprompted⟩ :
      ∃ w₂, SerialHost.flush w₁ = (.ok (), w₂) ∧ l.host.Prompted packet w₂ := by
    simp only [SerialHost.flush, flush, answer_of_faults_nil hworks.faults]
    rcases hr : l.host.replies with _ | ⟨reply, rest⟩
    · rw [hcount, hr]
      refine ⟨w₁.count .flush, rfl, ⟨hworks.faults, hworks.emptyError, hworks.writeLimit⟩,
        hwritten, ?_, ?_⟩
      · rw [hr]
        exact hqueue.trans (List.append_nil _).symm
      · rw [hcount, hr]
        rfl
    · rw [hcount, hr]
      refine ⟨_, rfl, ⟨hworks.faults, hworks.emptyError, hworks.writeLimit⟩, hwritten, ?_, ?_⟩
      · rw [hr]
        exact congrArg (· ++ reply) hqueue
      · rw [hr]
        rfl
  obtain ⟨s, journal, hsend, rfl⟩ := send_yields htakes hflush
  exact ⟨s, journal, hsend, hprompted⟩

end Wire

/-- The action ends with `r` and leaves the host in a state that satisfies `Q`. -/
def Leaves {σ α : Type} (act : LineM σ α) (l : Line σ) (r : Except Error α) (Q : σ → Prop) : Prop :=
  ∃ s journal, act l = outcome ⟨s, journal, l.patience⟩ (r.mapError .failed) ∧ Q s

section Rules

variable {σ α β : Type} {l : Line σ} {a : α} {r : Except Error β} {P Q : σ → Prop}

theorem Yields.leaves {act : LineM σ α} {f : α → LineM σ β} (h : Yields act l a P)
    (hf : ∀ s journal, P s → Leaves (f a) ⟨s, journal, l.patience⟩ r Q) :
    Leaves (act >>= f) l r Q := by
  obtain ⟨s, journal, hact, hp⟩ := h
  obtain ⟨s', journal', hrest, hq⟩ := hf s journal hp
  exact ⟨s', journal', (bind_of_ok hact).trans hrest, hq⟩

theorem Leaves.value {b : β} (h : Q l.host) : Leaves (pure b) l (.ok b) Q :=
  ⟨l.host, l.journal, rfl, h⟩

theorem Leaves.failed {e : Error} (h : Q l.host) : Leaves (fail e : LineM σ β) l (.error e) Q :=
  ⟨l.host, l.journal, rfl, h⟩

theorem Leaves.read {f : Line σ → LineM σ β} (h : Leaves (f l) l r Q) : Leaves (get >>= f) l r Q :=
  h

theorem maybe_note_leaves {c : Prop} [Decidable c] {n : Note} {act : LineM σ β}
    (h : ∀ journal, Leaves act ⟨l.host, journal, l.patience⟩ r Q) :
    Leaves (if c then (do Line.note n; act) else act) l r Q := by
  split
  · refine (note_yields n l).leaves ?_
    rintro _ journal rfl
    exact h journal
  · exact h l.journal

end Rules

/-- The action ends with a result and a state that satisfy `Q`. -/
def Reaches {s α : Type} (act : EStateM Halt s α) (st : s) (Q : Except Halt α → s → Prop) : Prop :=
  Q (ended act st).1 (ended act st).2

theorem bind_reaches {s α β : Type} {act : EStateM Halt s α} {f : α → EStateM Halt s β}
    {st st' : s} {a : α} {Q : Except Halt β → s → Prop} (hact : act st = .ok a st')
    (h : Reaches (f a) st' Q) : Reaches (act >>= f) st Q := by
  unfold Reaches ended
  rw [bind_of_ok hact]
  exact h

theorem read_reaches {s β : Type} {f : s → EStateM Halt s β} {st : s}
    {Q : Except Halt β → s → Prop} (h : Reaches (f st) st Q) : Reaches (get >>= f) st Q := h

theorem Yields.onLine {σ α : Type} {act : LineM σ α} {link : Link σ Channel} {a : α} {P : σ → Prop}
    (h : Yields act link.line a P) : ∃ s journal, P s ∧
      Link.onLine act link = .ok a { link with line := ⟨s, journal, link.line.patience⟩ } := by
  obtain ⟨s, journal, hact, hp⟩ := h
  exact ⟨s, journal, hp, by simp only [Link.onLine, zoom, hact]⟩

theorem Leaves.tried {σ α : Type} {act : LineM σ α} {link : Link σ Channel} {r : Except Error α}
    {P : σ → Prop} (h : Leaves act link.line r P) : ∃ s journal, P s ∧
      attempt (Link.onLine act) link =
        .ok r { link with line := ⟨s, journal, link.line.patience⟩ } := by
  obtain ⟨s, journal, hact, hp⟩ := h
  refine ⟨s, journal, hp, ?_⟩
  cases r <;> simp only [attempt, Link.onLine, zoom, hact, Except.mapError, outcome]

namespace Channel

/-- The reply of an attempt that finds this. -/
def reply (found : Option (Except Error Packet)) : Except Error (Option Packet) :=
  match found with
  | none => .ok none
  | some (.ok p) => .ok (some p)
  | some (.error e) => .error e

/-- What a hearing takes from the queue, and that it does nothing else. -/
structure Heard (w : Wire) (left : Bytes) (w' : Wire) : Prop where
  keeps : w.Keeps w'
  written : w'.written = w.written
  queue : w'.queue = left

theorem readPacket_hears {address : UInt8} {deadline fuel : Nat} {d : Decoder} {l : Line Wire}
    (hw : l.host.Working) (hfuel : l.host.queue.length < fuel)
    (hms : deadline - l.host.clock + 2 ≤ l.patience) :
    Leaves (readPacket address deadline fuel d) l (reply (d.finds address l.host.queue))
      (Heard l.host (d.leaves address l.host.queue)) := by
  induction fuel generalizing d l with
  | zero => omega
  | succ fuel ih =>
    obtain ⟨w, hread, hk, hwritten, hqueue⟩ := Wire.readWithin_head hw hms
    refine .read ((receive_yields hread).leaves ?_)
    rintro w journal rfl
    rcases hq : l.host.queue with _ | ⟨b, rest⟩
    · rw [hq] at hqueue
      exact .value ⟨hk, hwritten, hqueue⟩
    rw [hq] at hqueue hfuel
    have hclock := hk.clock
    have hagain : ∀ (d' : Decoder) (journal : List Entry),
        Leaves (readPacket address deadline fuel d') ⟨w, journal, l.patience⟩
          (reply (d'.finds address rest)) (Heard l.host (d'.leaves address rest)) := by
      intro d' journal
      have hlength : rest.length < fuel := by simpa using hfuel
      obtain ⟨w', journal', hact, hheard⟩ := @ih d' ⟨w, journal, l.patience⟩ (hk.working hw)
        (by simpa [hqueue] using hlength) (by dsimp only; omega)
      have hrest : w.queue = rest := hqueue
      rw [hrest] at hact hheard
      exact ⟨w', journal', hact, hk.trans hheard.keeps, hheard.written.trans hwritten, hheard.queue⟩
    refine maybe_note_leaves fun journal => ?_
    obtain ⟨answer, next, hpush⟩ : ∃ answer next, d.push b = (answer, next) := ⟨_, _, rfl⟩
    simp only [Decoder.finds, Decoder.leaves, Decoder.listen, hpush]
    rcases answer with e | _ | p
    · exact .failed ⟨hk, hwritten, hqueue⟩
    · exact hagain next journal
    · dsimp only
      by_cases hp : p.address = address
      · rw [if_pos hp, if_pos hp]
        exact .value ⟨hk, hwritten, hqueue⟩
      · rw [if_neg hp, if_neg hp]
        refine (note_yields _ _).leaves ?_
        rintro _ journal rfl
        exact hagain next journal

theorem awaitReply_hears {address : UInt8} {ms : Nat} {l : Line Wire} (hw : l.host.Working)
    (hlong : l.host.queue.length < l.patience) (hms : ms + 2 ≤ l.patience) :
    Leaves (awaitReply address ms) l (reply (hear address l.host.queue).found)
      (Heard l.host (hear address l.host.queue).left) := by
  have hclock : l.host.clock + ms - l.host.clock + 2 ≤ l.patience := by omega
  exact .read (.read (readPacket_hears hw hlong hclock))

/-- The damage that was met last. -/
def lastDamage (heard : List Hearing) : Option Error := (heard.filterMap Hearing.damage?).getLast?

theorem lastDamage_concat (past : List Hearing) (h : Hearing) :
    lastDamage (past ++ [h]) = h.damage?.or (lastDamage past) := by
  rw [lastDamage, lastDamage, List.filterMap_append]
  cases hd : h.damage? with
  | none => simp [hd]
  | some e => simp [hd]

/-- How a call ends whose attempts hear `heard`, and how many packets it has sent then: it ends with
the first packet that is heard, and after all attempts if there is none. -/
inductive Settles (link : Link Wire Channel) (heard : List Hearing) :
    Nat → Except Halt Status → Link Wire Channel → Prop where
  | answered {missed later : List Hearing} {h : Hearing} {p : Packet} {b : UInt8}
    {link' : Link Wire Channel} (split : heard = missed ++ h :: later)
    (before : ∀ m ∈ missed, m.Missed) (found : h.found = some (.ok p))
    (first : p.data.head? = some b) (queue : link'.line.host.queue = h.left)
    (channel : link'.channel = ⟨!link.channel.sequence⟩)
    (command : link'.command = { link.command with response := p.data }) :
    Settles link heard (missed.length + 1) (.ok (.ofByte b)) link'
  | empty {missed later : List Hearing} {h : Hearing} {p : Packet} {link' : Link Wire Channel}
    (split : heard = missed ++ h :: later) (before : ∀ m ∈ missed, m.Missed)
    (found : h.found = some (.ok p)) (data : p.data = [])
    (queue : link'.line.host.queue = h.left) (channel : link'.channel = link.channel)
    (command : link'.command = link.command) :
    Settles link heard (missed.length + 1) (.error (.failed .emptyResponse)) link'
  | unheard {link' : Link Wire Channel} (all : ∀ m ∈ heard, m.Missed)
    (channel : link'.channel = link.channel) (command : link'.command = link.command) :
    Settles link heard heard.length (.error (.failed ((lastDamage heard).getD
      (.noResponse link.command.address heard.length)))) link'

theorem Settles.pos {link link' : Link Wire Channel} {heard : List Hearing} {k : Nat}
    {r : Except Halt Status} (h : Settles link heard k r link') (hpos : 1 ≤ heard.length) :
    1 ≤ k := by
  cases h with
  | answered => exact Nat.le_add_left _ _
  | empty => exact Nat.le_add_left _ _
  | unheard => exact hpos

/-- A packet that is heard ends the call. -/
theorem complete_reaches (p : Packet) (link : Link Wire Channel) :
    Reaches (complete p) link fun r link' => link'.line.host = link.line.host ∧
      ((∃ b, p.data.head? = some b ∧ r = .ok (.ofByte b) ∧
          link'.channel = ⟨!link.channel.sequence⟩ ∧
          link'.command = { link.command with response := p.data }) ∨
        (p.data = [] ∧ r = .error (.failed .emptyResponse) ∧ link'.channel = link.channel ∧
          link'.command = link.command)) := by
  obtain ⟨_, hleads, rfl, hend⟩ := (complete_ends p link).end_reached
  cases hleads.path with
  | cons head tail =>
    cases tail
    exact ⟨head.symm, hend⟩

theorem copies_succ (n : Nat) (packet : Bytes) :
    copies (n + 1) packet = copies n packet ++ packet := by
  rw [copies, copies, List.replicate_succ', List.flatten_append]
  simp

/-- A link on its way through a call, after so many copies of the packet. -/
structure Underway (start : Link Wire Channel) (packet : Bytes) (sent : Nat)
    (link : Link Wire Channel) : Prop where
  working : link.line.host.Working
  written : link.line.host.written = start.line.host.written ++ copies sent packet
  channel : link.channel = start.channel
  command : link.command = start.command
  patience : link.line.patience = start.line.patience
  patient : start.command.timeout + 2 ≤ start.line.patience
  long : (link.line.host.queue ++ link.line.host.replies.flatten).length < start.line.patience

section Attempts

variable {start link : Link Wire Channel} {packet : Bytes} {sent : Nat}

theorem Underway.noted (h : Underway start packet sent link) (n : Note) :
    ∃ journal, Link.note n link =
        .ok () { link with line := ⟨link.line.host, journal, link.line.patience⟩ } ∧
      Underway start packet sent
        { link with line := ⟨link.line.host, journal, link.line.patience⟩ } := by
  obtain ⟨_, journal, rfl, hnote⟩ := (note_yields n link.line).onLine
  exact ⟨journal, hnote, h.working, h.written, h.channel, h.command, h.patience, h.patient, h.long⟩

/-- The step of a call: one more copy of the packet goes out, and what is heard after it decides
how the call goes on. -/
theorem Underway.attempt (h : Underway start packet sent link) {n : Note}
    {f : Except Error (Option Packet) → LinkM Wire Channel Status}
    {Q : Except Halt Status → Link Wire Channel → Prop}
    (hnext : ∀ line : Line Wire, Underway start packet (sent + 1) { link with line } →
      let heard := hear start.command.address
        (link.line.host.queue ++ link.line.host.replies.headD [])
      line.host.queue = heard.left → line.host.replies = link.line.host.replies.tail →
      Reaches (f (reply heard.found)) { link with line } Q) :
    Reaches (do
      Link.note n
      Link.onLine (Line.send packet)
      f (← SspUpdate.attempt (Link.onLine
        (awaitReply link.command.address link.command.timeout)))) link Q := by
  have hflat : link.line.host.replies.headD [] ++ link.line.host.replies.tail.flatten =
      link.line.host.replies.flatten := by
    cases link.line.host.replies <;> rfl
  have hlong := h.long
  rw [← hflat, ← List.append_assoc, List.length_append] at hlong
  obtain ⟨journal, hnote, hnoted⟩ := h.noted n
  refine bind_reaches hnote ?_
  obtain ⟨w₁, journal, hsent, hsend⟩ :=
    (Wire.send_prompts hnoted.working packet).onLine
  refine bind_reaches hsend ?_
  have hqueue : w₁.queue.length < link.line.patience := by
    rw [hsent.queue, h.patience]
    exact Nat.lt_of_le_of_lt (Nat.le_add_right _ _) hlong
  have htimeout : link.command.timeout + 2 ≤ link.line.patience := by
    rw [h.command, h.patience]
    exact h.patient
  have haddress : link.command.address = start.command.address := by rw [h.command]
  have hawaited : Leaves (awaitReply start.command.address link.command.timeout)
      ({ link with line := ⟨w₁, journal, link.line.patience⟩ } : Link Wire Channel).line _ _ :=
    awaitReply_hears hsent.working hqueue htimeout
  obtain ⟨w₂, journal', hheard, htried⟩ := hawaited.tried
  rw [haddress]
  refine bind_reaches htried ?_
  have hleft := hheard.queue
  have hreplies := hheard.keeps.replies.trans hsent.replies
  dsimp only at hleft hreplies ⊢
  rw [hsent.queue] at hleft ⊢
  refine hnext ⟨w₂, journal', link.line.patience⟩ ?_ hleft hreplies
  refine ⟨hheard.keeps.working hsent.working, ?_, h.channel, h.command, h.patience, h.patient, ?_⟩
  · dsimp only
    rw [hheard.written, hsent.written, h.written, copies_succ, List.append_assoc]
  · dsimp only
    have hshort := (Decoder.leaves_suffix start.command.address .idle
      (link.line.host.queue ++ link.line.host.replies.headD [])).length_le
    rw [hleft, hreplies, List.length_append]
    exact Nat.lt_of_le_of_lt (Nat.add_le_add_right hshort _) hlong

/-- The run of a call: whatever was missed before, the rest of the attempts settles it. -/
theorem exchange_settles {past : List Hearing} (hpast : ∀ m ∈ past, m.Missed)
    (h : Underway start packet past.length link) (left : Nat) :
    Reaches (exchange packet (past.length + left) left (lastDamage past)) link fun r link' =>
      ∃ k ≤ past.length + left,
        link'.line.host.written = start.line.host.written ++ copies k packet ∧
      Settles start (past ++ hearings start.command.address left link.line.host.queue
        link.line.host.replies) k r link' := by
  induction left generalizing past link with
  | zero =>
    have hall : past ++ hearings start.command.address 0 link.line.host.queue
        link.line.host.replies = past := List.append_nil past
    have hend : Settles start past past.length (.error (.failed ((lastDamage past).getD
        (.noResponse link.command.address past.length)))) link := by
      rw [h.command]
      exact .unheard hpast h.channel h.command
    refine ⟨past.length, Nat.le_refl _, h.written, ?_⟩
    rw [hall]
    exact hend
  | succ left ih =>
    have hcount : past.length + (left + 1) = past.length + 1 + left := by omega
    rw [hcount]
    refine read_reaches (h.attempt fun line hline => ?_)
    intro heard hleft hreplies
    have hsound : heard.Sound start.command.address := hear_sound _ _
    have hheard : hearings start.command.address (left + 1) link.line.host.queue
        link.line.host.replies = heard :: hearings start.command.address left line.host.queue
          line.host.replies := by
      rw [hearings, hleft, hreplies]
    rw [hheard]
    have hagain : ∀ n last, heard.Missed → heard.damage?.or (lastDamage past) = last →
        Reaches (do Link.note n; exchange packet (past.length + 1 + left) left last)
          { link with line } fun r link' => ∃ k ≤ past.length + 1 + left,
            link'.line.host.written = start.line.host.written ++ copies k packet ∧
            Settles start (past ++ heard :: hearings start.command.address left line.host.queue
              line.host.replies) k r link' := by
      intro n last hmissed hlast
      have hlength : (past ++ [heard]).length = past.length + 1 := by simp
      have hpast' : ∀ m ∈ past ++ [heard], m.Missed := by
        simpa [or_imp, forall_and] using And.intro hpast hmissed
      obtain ⟨journal, hnote, hnoted⟩ := hline.noted n
      refine bind_reaches hnote ?_
      rw [← hlength] at hnoted
      have hrest := ih hpast' hnoted
      rw [lastDamage_concat, hlast, hlength, List.append_assoc, List.singleton_append] at hrest
      exact hrest
    rcases hfound : heard.found with _ | e | p
    · refine hagain _ _ (.inl hfound) ?_
      simp [Hearing.damage?, hfound]
    · obtain ⟨expected, received, rfl⟩ := hsound.damage e hfound
      refine hagain _ _ (.inr ⟨_, _, hfound⟩) ?_
      simp [Hearing.damage?, hfound]
    · obtain ⟨hhost, hend⟩ := complete_reaches p { link with line }
      have hqueue := (congrArg Wire.queue hhost).trans hleft
      have hwritten := (congrArg Wire.written hhost).trans hline.written
      refine ⟨past.length + 1, Nat.le_add_right _ _, hwritten, ?_⟩
      obtain ⟨b, hb, hr, hchannel, hcommand⟩ | ⟨hempty, hr, hchannel, hcommand⟩ := hend
      · have hflag : (⟨!link.channel.sequence⟩ : Channel) = ⟨!start.channel.sequence⟩ := by
          rw [h.channel]
        have hstored : { link.command with response := p.data } =
            { start.command with response := p.data } := by rw [h.command]
        exact hr ▸ .answered rfl hpast hfound hb hqueue (hchannel.trans hflag)
          (hcommand.trans hstored)
      · exact hr ▸ .empty rfl hpast hfound hempty hqueue (hchannel.trans h.channel)
          (hcommand.trans h.command)

end Attempts

/-- How many packets a call sends at most. -/
def attempts (command : Command) : Nat := max 1 command.retries.toNat

/-- What the attempts of a call on this link hear. -/
def outlook (link : Link Wire Channel) : List Hearing :=
  hearings link.command.address (attempts link.command) link.line.host.queue link.line.host.replies

theorem length_outlook (link : Link Wire Channel) :
    (outlook link).length = attempts link.command := length_hearings _ _ _ _

/-- There is a first attempt, and it hears what waits and the first reply. -/
theorem outlook_cons (link : Link Wire Channel) : ∃ later, outlook link =
    hear link.command.address (link.line.host.queue ++ link.line.host.replies.headD []) ::
      later := by
  obtain ⟨n, hn⟩ : ∃ n, attempts link.command = n + 1 :=
    Nat.exists_eq_succ_of_ne_zero (by unfold attempts; omega)
  rw [outlook, hn]
  exact ⟨_, rfl⟩

/-- A wire that works under a call: it is waited on for longer than the timeout, and there is
patience for all bytes that can come. -/
structure Serves (link : Link Wire Channel) : Prop where
  working : link.line.host.Working
  patient : link.command.timeout + 2 ≤ link.line.patience
  long : (link.line.host.queue ++ link.line.host.replies.flatten).length < link.line.patience

theorem transact_settles {link : Link Wire Channel} (h : Serves link)
    (clear : link.command.encrypted = false) (fits : link.command.data.length ≤ 255) :
    Reaches transact link fun r link' => ∃ k ≤ attempts link.command,
      link'.line.host.written = link.line.host.written ++ copies k
        (Packet.framed ⟨seqAddr link.channel.sequence link.command.address, link.command.data⟩) ∧
      Settles link (outlook link) k r link' := by
  have hencode : Packet.encode
      ⟨seqAddr link.channel.sequence link.command.address, link.command.data⟩ = .ok _ :=
    Packet.encode_eq fits
  refine read_reaches ?_
  rw [if_neg (by simp [clear])]
  dsimp only
  rw [hencode]
  refine bind_reaches rfl ?_
  have hstart : Underway link (Packet.framed ⟨seqAddr link.channel.sequence link.command.address,
      link.command.data⟩) 0 link :=
    ⟨h.working, (List.append_nil _).symm, rfl, rfl, rfl, h.patient, h.long⟩
  have hnone : ∀ m ∈ ([] : List Hearing), m.Missed := nofun
  have hsettles := exchange_settles hnone hstart (attempts link.command)
  rw [List.length_nil, Nat.zero_add] at hsettles
  exact hsettles

/-- On a wire that works, with any bytes waiting and any replies to come, a call writes the same
packet once or more, at most as often as it has attempts. What each attempt hears is a packet from
its device, a wrong checksum or silence, and the call settles on it: the first packet that is heard
ends it, with its data or, if it has none, with an error that stores nothing. If none is heard,
all attempts are made, and the last wrong checksum is reported, or else the timeout. -/
theorem transact_retries {link : Link Wire Channel} (h : Serves link)
    (clear : link.command.encrypted = false) (fits : link.command.data.length ≤ 255) :
    (outlook link).length = attempts link.command ∧
    (∀ heard ∈ outlook link, heard.Sound link.command.address) ∧
    ∃ packet k, Packet.encode
        ⟨seqAddr link.channel.sequence link.command.address, link.command.data⟩ = .ok packet ∧
      1 ≤ k ∧ k ≤ attempts link.command ∧
      (ended transact link).2.line.host.written = link.line.host.written ++ copies k packet ∧
      Settles link (outlook link) k (ended transact link).1 (ended transact link).2 := by
  obtain ⟨k, hk, hwritten, hsettles⟩ := transact_settles h clear fits
  have hpos : 1 ≤ (outlook link).length := by
    rw [length_outlook]
    exact Nat.le_max_left _ _
  exact ⟨length_outlook link, fun heard hmem => sound_of_mem_hearings hmem, _, k,
    Packet.encode_eq fits, hsettles.pos hpos, hk, hwritten, hsettles⟩

end Channel

/-- A wire that takes three bytes at a time. Some noise waits on it, and its replies are none, a
damaged packet and a whole one. -/
def Wire.faltering : Wire where
  queue := [0x00, 0xF0]
  replies := [[], [0x7F, 0x80, 0x01, 0xF0, 0x00, 0x00], Packet.framed ⟨0x80, [0xF0]⟩]
  writeLimit := some 3

namespace Channel

/-- A call whose attempts hear nothing, damage and the reply. -/
theorem transact_retries_faltering :
    let command : Command := { Command.new 0 with timeout := 1, data := [syncCode] }
    let link : Link Wire Channel := ⟨⟨.faltering, [], 20⟩, .new, command⟩
    Serves link ∧ link.command.encrypted = false ∧ link.command.data.length ≤ 255 ∧
      (outlook link).map Hearing.found =
        [none, some (.error (.crcMismatch 0x8023 0)), some (.ok ⟨0x80, [0xF0]⟩)] ∧
      ∃ packet k, Packet.encode
          ⟨seqAddr link.channel.sequence link.command.address, link.command.data⟩ = .ok packet ∧
        1 ≤ k ∧ k ≤ attempts link.command ∧
        (ended transact link).2.line.host.written = link.line.host.written ++ copies k packet ∧
        Settles link (outlook link) k (ended transact link).1 (ended transact link).2 := by
  intro command link
  have hserves : Serves link := ⟨⟨rfl, rfl, by decide⟩, by decide, by decide +kernel⟩
  have hfits : link.command.data.length ≤ 255 := by decide
  exact ⟨hserves, rfl, hfits, by decide +kernel, (transact_retries hserves rfl hfits).2.2⟩

end Channel

end SspUpdate
