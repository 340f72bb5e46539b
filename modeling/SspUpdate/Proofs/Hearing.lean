import SspUpdate.Proofs.Conversation
import SspUpdate.Proofs.Framing

/-!
# Hearing a device

A command goes out to the low seven bits of its address, and a reply is taken
for the answer if it comes from the whole of the address. What a host lets be
seen of a device that answers is put in terms of the host alone: it takes the
packet, and the bytes of the answer can be read in time. An exchange with such
a device succeeds, as long as the two addresses are the same.
-/

namespace SspUpdate

namespace Packet

theorem toNat_address (p : Packet) : p.address.toNat = p.seqAddr.toNat % 128 := by
  have hmask : addressMask.toNat = 2 ^ 7 - 1 := rfl
  rw [address, UInt8.toNat_and, hmask, Nat.and_two_pow_sub_one_eq_mod]

/-- No packet comes from an address above the mask. -/
theorem address_lt (p : Packet) : p.address < 0x80 := by
  have h := p.toNat_address
  have hbound : (0x80 : UInt8).toNat = 128 := rfl
  rw [UInt8.lt_iff_toNat_lt, hbound]
  omega

end Packet

theorem Channel.toNat_seqAddr (address : UInt8) :
    (seqAddr true address).toNat = address.toNat % 128 + 128 := by
  have hmask : addressMask.toNat = 2 ^ 7 - 1 := rfl
  have hbit : sequenceBit.toNat = 2 ^ 7 * 1 := rfl
  have hlow : address.toNat % 2 ^ 7 < 2 ^ 7 := Nat.mod_lt _ (by decide)
  rw [seqAddr, if_pos rfl, UInt8.toNat_or, UInt8.toNat_and, hmask, hbit,
    Nat.and_two_pow_sub_one_eq_mod, ← Nat.two_pow_add_eq_or_of_lt hlow]
  omega

/-- A reply to a sync packet names the low seven bits of the address it was sent to. -/
theorem Channel.address_reply (address : UInt8) (data : Bytes) :
    (Packet.address ⟨seqAddr true address, data⟩).toNat = address.toNat % 128 := by
  rw [Packet.toNat_address, toNat_seqAddr]
  omega

namespace Decoder

theorem listen_address {address : UInt8} {d : Decoder} {bytes rest : Bytes} {p : Packet}
    (h : d.listen address bytes = some (.ok p, rest)) : p.address = address := by
  induction bytes generalizing d with
  | nil => cases h
  | cons b bytes ih =>
    simp only [listen] at h
    split at h
    · cases h
    · exact ih h
    · split at h
      · next hp =>
        cases h
        exact hp
      · exact ih h

theorem length_feed (d : Decoder) (bytes : Bytes) : (d.feed bytes).1.length = bytes.length := by
  induction bytes generalizing d with
  | nil => rfl
  | cons b bytes ih => simp [feed, ih]

/-- Who listens for a packet that is given back at the end of some bytes takes it there. -/
theorem listen_of_feed {d d' : Decoder} {bytes : Bytes} {n : Nat} {p : Packet}
    (h : d.feed bytes = (quiet n ++ [.ok (some p)], d')) :
    d.listen p.address bytes = some (.ok p, []) := by
  induction bytes generalizing d n with
  | nil => simp [feed] at h
  | cons b bytes ih =>
    obtain ⟨answer, next, hpush⟩ : ∃ answer next, d.push b = (answer, next) := ⟨_, _, rfl⟩
    simp only [feed, hpush, Prod.mk.injEq] at h
    obtain ⟨hanswers, hlast⟩ := h
    simp only [listen, hpush]
    cases n with
    | zero =>
      obtain ⟨rfl, hrest⟩ : answer = .ok (some p) ∧ (next.feed bytes).1 = [] := by
        simpa [quiet] using hanswers
      have hnil : bytes = [] := by
        rw [← List.length_eq_zero_iff, ← length_feed next, hrest, List.length_nil]
      simp [hnil]
    | succ n =>
      obtain ⟨rfl, hrest⟩ :
          answer = .ok none ∧ (next.feed bytes).1 = quiet n ++ [.ok (some p)] := by
        simpa [quiet, List.replicate_succ] using hanswers
      exact ih (Prod.ext hrest hlast)

end Decoder

/-- Who listens for a packet takes it off the stream that it comes in. -/
theorem Passage.listened (s : Passage) :
    Decoder.idle.listen s.packet.address s.bytes = some (.ok s.packet, []) :=
  Decoder.listen_of_feed s.feed_bytes

section Hosts

variable {σ : Type} [SerialHost σ]

/-- The port takes all of the data, in one call or in several. -/
inductive Takes : Bytes → σ → σ → Prop where
  | nothing (s : σ) : Takes [] s s
  | part {data : Bytes} {n : Nat} {s s' s'' : σ} (left : data ≠ [])
    (call : SerialHost.write data s = (.ok (n + 1), s')) (rest : Takes (data.drop (n + 1)) s' s'') :
    Takes data s s''

/-- The bytes can be read one after the other before the deadline. -/
def Comes (patience deadline : Nat) : Bytes → σ → Prop
  | [], _ => True
  | b :: rest, s => ∃ s', SerialHost.readWithin patience (deadline - SerialHost.clock s) s =
      (.ok (some b), s') ∧ Comes patience deadline rest s'

/-- The time `ms` milliseconds from now, where the clock of the host can tell it. -/
def deadline? (ms : Nat) (s : σ) : Option Nat :=
  timeAfter (SerialHost.lastInstant s) (SerialHost.clock s) ms

/-- One of the next copies of a packet is answered by some bytes, within the time for an answer;
nothing comes back after the copies before it. -/
inductive Replying (patience timeout : Nat) (packet bytes : Bytes) :
    (attempts : Nat) → σ → Prop where
  | now {left deadline : Nat} {s s₁ s₂ : σ} (taken : Takes packet s s₁)
    (flushed : SerialHost.flush s₁ = (.ok (), s₂)) (timed : deadline? timeout s₂ = some deadline)
    (comes : Comes patience deadline bytes s₂) :
    Replying patience timeout packet bytes (left + 1) s
  | later {left deadline : Nat} {s s₁ s₂ s₃ : σ} (taken : Takes packet s s₁)
    (flushed : SerialHost.flush s₁ = (.ok (), s₂)) (timed : deadline? timeout s₂ = some deadline)
    (silence : SerialHost.readWithin patience timeout s₂ = (.ok none, s₃))
    (next : Replying patience timeout packet bytes left s₃) :
    Replying patience timeout packet bytes (left + 1) s

/-- The action succeeds with `a` and leaves the host in a state that satisfies `Q`. -/
def Yields {α : Type} (act : LineM σ α) (l : Line σ) (a : α) (Q : σ → Prop) : Prop :=
  ∃ s journal, act l = .ok a ⟨s, journal, l.patience⟩ ∧ Q s

theorem bind_of_ok {s α β : Type} {act : EStateM Halt s α} {f : α → EStateM Halt s β} {st st' : s}
    {a : α} (h : act st = .ok a st') : (act >>= f) st = f a st' := by
  simp only [bind, EStateM.bind, h]

section Rules

omit [SerialHost σ]

variable {α β : Type} {l : Line σ} {a : α} {b : β} {s : σ} {P Q : σ → Prop}

theorem Yields.andThen {act : LineM σ α} {f : α → LineM σ β} (h : Yields act l a P)
    (hf : ∀ s journal, P s → Yields (f a) ⟨s, journal, l.patience⟩ b Q) :
    Yields (act >>= f) l b Q := by
  obtain ⟨s, journal, hact, hp⟩ := h
  obtain ⟨s', journal', hrest, hq⟩ := hf s journal hp
  exact ⟨s', journal', (bind_of_ok hact).trans hrest, hq⟩

theorem Yields.value (h : Q l.host) : Yields (pure a) l a Q := ⟨l.host, l.journal, rfl, h⟩

theorem Yields.read {f : Line σ → LineM σ α} (h : Yields (f l) l a Q) : Yields (get >>= f) l a Q :=
  h

theorem ask_yields {question : σ → α × σ} {entry : α → Entry} (h : question l.host = (a, s)) :
    Yields (Line.ask question entry) l a (· = s) :=
  ⟨s, entry a :: l.journal, by simp only [Line.ask, h], rfl⟩

theorem note_yields (n : Note) (l : Line σ) : Yields (Line.note n) l () (· = l.host) :=
  ⟨_, _, rfl, rfl⟩

theorem maybe_note_yields {c : Prop} [Decidable c] {n : Note} {act : LineM σ α}
    (h : ∀ journal, Yields act ⟨l.host, journal, l.patience⟩ a Q) :
    Yields (if c then (do Line.note n; act) else act) l a Q := by
  split
  · refine (note_yields n l).andThen ?_
    rintro _ journal rfl
    exact h journal
  · exact h l.journal

end Rules

theorem writeAll_yields {data : Bytes} {s s' : σ} (h : Takes data s s') (patience : Nat)
    (l : Line σ) (hl : l.host = s) : Yields (Line.writeAll patience data) l () (· = s') := by
  induction h generalizing l with
  | nothing s =>
    rw [Line.writeAll.eq_def, dif_neg (by simp)]
    exact .value hl
  | part left call rest ih =>
    rw [Line.writeAll.eq_def, dif_pos left]
    rw [← hl] at call
    refine (ask_yields call).andThen ?_
    rintro _ journal rfl
    exact ih _ rfl

theorem send_yields {data : Bytes} {l : Line σ} {s₁ s₂ : σ} (taken : Takes data l.host s₁)
    (flushed : SerialHost.flush s₁ = (.ok (), s₂)) : Yields (Line.send data) l () (· = s₂) := by
  refine (writeAll_yields taken l.patience l rfl).andThen ?_
  rintro _ journal rfl
  refine (ask_yields flushed).andThen ?_
  rintro _ journal' rfl
  exact .value rfl

theorem receive_yields {ms : Nat} {l : Line σ} {answer : Option UInt8} {s : σ}
    (h : SerialHost.readWithin l.patience ms l.host = (.ok answer, s)) :
    Yields (Line.receive ms) l answer (· = s) := by
  refine .read ((ask_yields h).andThen ?_)
  rintro _ journal rfl
  exact .value rfl

/-- What can be read in time is listened to, up to the packet that is listened for. -/
theorem readPacket_yields {address : UInt8} {deadline : Nat} {bytes : Bytes} {p : Packet}
    {d : Decoder} (h : d.listen address bytes = some (.ok p, [])) {fuel : Nat}
    (hfuel : bytes.length ≤ fuel) {l : Line σ} (hcomes : Comes l.patience deadline bytes l.host) :
    Yields (Channel.readPacket address deadline fuel d) l (some p) fun _ => True := by
  induction bytes generalizing d fuel l with
  | nil => cases h
  | cons b bytes ih =>
    obtain ⟨fuel, rfl⟩ : ∃ n, fuel = n + 1 := ⟨fuel - 1, by simp at hfuel; omega⟩
    rw [List.length_cons, Nat.add_le_add_iff_right] at hfuel
    obtain ⟨s, hread, hcomes⟩ := hcomes
    refine .read ((receive_yields hread).andThen ?_)
    rintro _ journal rfl
    refine maybe_note_yields fun journal => ?_
    obtain ⟨answer, next, hpush⟩ : ∃ answer next, d.push b = (answer, next) := ⟨_, _, rfl⟩
    simp only [Decoder.listen, hpush] at h ⊢
    rcases answer with e | _ | q
    · cases h
    · exact ih h hfuel hcomes
    · dsimp only at h ⊢
      by_cases hq : q.address = address
      · rw [if_pos hq] at h ⊢
        cases h
        exact .value trivial
      · rw [if_neg hq] at h ⊢
        refine (note_yields _ _).andThen ?_
        rintro _ journal rfl
        exact ih h hfuel hcomes

/-- When nothing comes in time, nothing is heard. -/
theorem readPacket_silent {address : UInt8} {deadline fuel : Nat} {d : Decoder} (hpos : 0 < fuel)
    {l : Line σ} {s : σ}
    (h : SerialHost.readWithin l.patience (deadline - SerialHost.clock l.host) l.host =
      (.ok none, s)) :
    Yields (Channel.readPacket address deadline fuel d) l none (· = s) := by
  obtain ⟨fuel, rfl⟩ : ∃ n, fuel = n + 1 := ⟨fuel - 1, by omega⟩
  refine .read ((receive_yields h).andThen ?_)
  rintro _ journal rfl
  exact .value rfl

theorem eq_of_deadline? {ms deadline : Nat} {s : σ} (h : deadline? ms s = some deadline) :
    deadline = SerialHost.clock s + ms := by
  obtain hnone | hsome := timeAfter_cases (SerialHost.lastInstant s) (SerialHost.clock s) ms
  · cases h.symm.trans hnone
  · exact Option.some.inj (h.symm.trans hsome)

/-- A deadline that the clock can tell is the one of what follows. -/
theorem awaitReply_eq {address : UInt8} {ms deadline : Nat} {l : Line σ}
    (h : deadline? ms l.host = some deadline) :
    Channel.awaitReply address ms l = Channel.readPacket address deadline l.patience .idle l := by
  have hdeadline : Line.deadline ms l = .ok deadline l := by
    have hchecked : Line.deadline ms l = checked (deadline? ms l.host) l := rfl
    rw [hchecked, h]
    rfl
  exact bind_of_ok hdeadline

theorem awaitReply_yields {address : UInt8} {ms deadline : Nat} {bytes : Bytes} {p : Packet}
    {l : Line σ} (h : Decoder.idle.listen address bytes = some (.ok p, []))
    (hlong : bytes.length ≤ l.patience) (htimed : deadline? ms l.host = some deadline)
    (hcomes : Comes l.patience deadline bytes l.host) :
    Yields (Channel.awaitReply address ms) l (some p) fun _ => True := by
  rw [Yields, awaitReply_eq htimed]
  exact readPacket_yields h hlong hcomes

theorem awaitReply_silent {address : UInt8} {ms deadline : Nat} {l : Line σ} {s : σ}
    (hpos : 0 < l.patience) (htimed : deadline? ms l.host = some deadline)
    (h : SerialHost.readWithin l.patience ms l.host = (.ok none, s)) :
    Yields (Channel.awaitReply address ms) l none (· = s) := by
  rw [Yields, awaitReply_eq htimed]
  refine readPacket_silent hpos ?_
  rw [eq_of_deadline? htimed, Nat.add_sub_cancel_left]
  exact h

section Links

/-- The action succeeds with `a`. -/
def Succeeds {s α : Type} (act : EStateM Halt s α) (st : s) (a : α) : Prop :=
  ∃ st', act st = .ok a st'

omit [SerialHost σ]

theorem Succeeds.read {s α : Type} {f : s → EStateM Halt s α} {st : s} {a : α}
    (h : Succeeds (f st) st a) : Succeeds (get >>= f) st a := h

/-- An action on the line of a link that yields goes before an action that succeeds. -/
theorem Yields.andThen_succeeds {α β : Type} {act : LineM σ α} {f : α → LinkM σ Channel β}
    {link : Link σ Channel} {a : α} {b : β} {P : σ → Prop} (h : Yields act link.line a P)
    (hf : ∀ s journal, P s →
      Succeeds (f a) { link with line := ⟨s, journal, link.line.patience⟩ } b) :
    Succeeds (Link.onLine act >>= f) link b := by
  obtain ⟨s, journal, hact, hp⟩ := h
  obtain ⟨link', hrest⟩ := hf s journal hp
  refine ⟨link', (bind_of_ok ?_).trans hrest⟩
  simp only [Link.onLine, zoom, hact]

/-- The like for an action that is tried. -/
theorem Yields.tried_succeeds {α β : Type} {act : LineM σ α}
    {f : Except Error α → LinkM σ Channel β} {link : Link σ Channel} {a : α} {b : β} {P : σ → Prop}
    (h : Yields act link.line a P)
    (hf : ∀ s journal, P s →
      Succeeds (f (.ok a)) { link with line := ⟨s, journal, link.line.patience⟩ } b) :
    Succeeds (attempt (Link.onLine act) >>= f) link b := by
  obtain ⟨s, journal, hact, hp⟩ := h
  obtain ⟨link', hrest⟩ := hf s journal hp
  refine ⟨link', (bind_of_ok ?_).trans hrest⟩
  simp only [attempt, Link.onLine, zoom, hact]

end Links

theorem complete_succeeds {reply : Packet} {status : Status} (h : reply.status? = some status)
    (link : Link σ Channel) : Succeeds (Channel.complete reply) link status := by
  obtain ⟨seqAddr, data⟩ := reply
  cases data with
  | nil => cases h
  | cons b rest =>
    cases h
    exact ⟨_, rfl⟩

/-- An exchange whose packet is answered hears the answer, however many copies it takes: each finds
the port as the last one left it. -/
theorem exchange_succeeds {patience timeout left : Nat} {packet bytes : Bytes} {s : σ}
    {address : UInt8} {reply : Packet} {status : Status}
    (h : Replying patience timeout packet bytes left s)
    (hstatus : reply.status? = some status) (hlong : bytes.length ≤ patience)
    (hlisten : Decoder.idle.listen address bytes = some (.ok reply, [])) (attempts : Nat)
    (last : Option Error) {link : Link σ Channel} (hhost : link.line.host = s)
    (hpatience : link.line.patience = patience) (htimeout : link.command.timeout = timeout)
    (haddress : link.command.address = address) :
    Succeeds (Channel.exchange packet attempts left last) link status := by
  induction h generalizing link last with
  | @now left deadline s s₁ s₂ taken flushed timed comes =>
    subst hhost hpatience htimeout haddress
    refine .read (Yields.andThen_succeeds (note_yields _ link.line) ?_)
    rintro _ journal rfl
    refine Yields.andThen_succeeds (send_yields taken flushed) ?_
    rintro _ journal rfl
    refine Yields.tried_succeeds (awaitReply_yields hlisten hlong timed comes) ?_
    intro s journal _
    exact complete_succeeds hstatus _
  | @later left deadline s s₁ s₂ s₃ taken flushed timed silence next ih =>
    have hpos : 0 < patience := by
      cases bytes with
      | nil => cases hlisten
      | cons b rest => simp at hlong; omega
    subst hhost hpatience htimeout haddress
    refine .read (Yields.andThen_succeeds (note_yields _ link.line) ?_)
    rintro _ journal rfl
    refine Yields.andThen_succeeds (send_yields taken flushed) ?_
    rintro _ journal rfl
    refine Yields.tried_succeeds (awaitReply_silent hpos timed silence) ?_
    rintro _ journal rfl
    refine Yields.andThen_succeeds (note_yields _ _) ?_
    rintro _ journal rfl
    exact ih last rfl rfl rfl rfl

/-- A synchronisation whose packet is answered hears the answer. -/
theorem sync_succeeds {bytes : Bytes} {reply : Packet} {status : Status} {link : Link σ Channel}
    (hclear : link.command.encrypted = false)
    (h : Replying link.line.patience link.command.timeout
      (Channel.syncPacket link.command.address) bytes (max 1 link.command.retries.toNat)
      link.line.host)
    (hstatus : reply.status? = some status) (hlong : bytes.length ≤ link.line.patience)
    (hlisten : Decoder.idle.listen link.command.address bytes = some (.ok reply, [])) :
    Succeeds Channel.sync link status := by
  have hexchange : Succeeds (Channel.exchange (Channel.syncPacket link.command.address)
      (max 1 link.command.retries.toNat) (max 1 link.command.retries.toNat) none)
      ⟨link.line, ⟨true⟩, { link.command with data := [Channel.syncCode] }⟩ status :=
    exchange_succeeds h hstatus hlong hlisten _ none rfl rfl rfl rfl
  have hencode : Packet.encode ⟨Channel.seqAddr true link.command.address, [Channel.syncCode]⟩ =
      .ok (Channel.syncPacket link.command.address) := Packet.encode_eq (by simp)
  obtain ⟨link', hact⟩ := hexchange
  refine ⟨link', ?_⟩
  have htransact : Channel.transact
      (⟨link.line, ⟨true⟩, { link.command with data := [Channel.syncCode] }⟩ : Link σ Channel) =
      .ok status link' := by
    have hread : ∀ {β : Type} {f : Link σ Channel → LinkM σ Channel β} {link : Link σ Channel},
        (get >>= f) link = f link link := rfl
    rw [Channel.transact, hread, if_neg (by simp [hclear])]
    dsimp only
    rw [hencode]
    exact hact
  exact htransact

end Hosts

end SspUpdate
