import SspUpdate.Proofs.LineCalls
import SspUpdate.Channel

/-!
# What an exchange writes and hears

A call of the packet channel writes copies of one packet, the last one perhaps
cut off, and takes as its answer the first packet from the addressed device
that it hears after the last copy. `Decoder.listen` says which packet that is.
Channel and command change only when there was an answer.
-/

namespace SspUpdate

/-- The bytes of a packet on the line. -/
def Packet.framed (p : Packet) : Bytes := startByte :: stuff p.body

theorem Packet.encode_eq {p : Packet} (h : p.data.length ≤ 255) : p.encode = .ok p.framed :=
  if_pos h

/-- What a listener for `address` makes of the bytes, with those left over: the
first packet from there, or the damage before it. -/
def Decoder.listen (address : UInt8) : Decoder → Bytes → Option (Except Error Packet × Bytes)
  | _, [] => none
  | d, b :: rest =>
    match d.push b with
    | (.error e, _) => some (.error e, rest)
    | (.ok none, d) => listen address d rest
    | (.ok (some p), d) =>
      if p.address = address then some (.ok p, rest) else listen address d rest

/-- The listener finds no packet, as there is none, or as damage ended the bytes. -/
def Decoder.FindsNone (address : UInt8) (d : Decoder) (bytes : Bytes) : Prop :=
  ∀ found rest, d.listen address bytes = some (found, rest) → (∃ e, found = .error e) ∧ rest = []

theorem Decoder.findsNone_of_listen {address : UInt8} {d : Decoder} {bytes : Bytes}
    (h : d.listen address bytes = none) : d.FindsNone address bytes := by
  intro found rest hfound
  rw [h] at hfound
  cases hfound

theorem Decoder.findsNone_of_damage {address : UInt8} {d : Decoder} {bytes : Bytes} {e : Error}
    (h : d.listen address bytes = some (.error e, [])) : d.FindsNone address bytes := by
  intro found rest hfound
  rw [h] at hfound
  cases hfound
  exact ⟨⟨e, rfl⟩, rfl⟩

/-- How listening for a packet can go. -/
structure Listens (address : UInt8) (d : Decoder) (r : Except Halt (Option Packet)) (t : Trace) :
    Prop where
  traffic : t.Traffic
  sent : t.sent = []
  found : ∀ p, r = .ok (some p) → d.listen address t.heard = some (.ok p, [])
  missed : r = .ok none → d.listen address t.heard = none
  damaged : ∀ h, r = .error h → d.FindsNone address t.heard

namespace Channel

section Lines

variable {σ : Type} [SerialHost σ]

/-- One more byte in front, which the decoder took without ending the search. -/
theorem Listens.cons {address : UInt8} {d d' : Decoder} {r : Except Halt (Option Packet)}
    {t : Trace} {b : UInt8} (ms : Nat) (notes : Trace) (hn : notes.Silent)
    (hstep : ∀ rest, d.listen address (b :: rest) = d'.listen address rest)
    (h : Listens address d' r t) :
    Listens address d r (.received ms (.ok (some b)) :: (notes ++ t)) where
  traffic := by simp [Entry.IsControl, hn.traffic, h.traffic]
  sent := by simp [Entry.sent, hn.sent, h.sent]
  found p hr := by simp [Entry.heard?, hn.heard, hstep, h.found p hr]
  missed hr := by simp [Entry.heard?, hn.heard, hstep, h.missed hr]
  damaged e hr := by simpa [Decoder.FindsNone, Entry.heard?, hn.heard, hstep] using h.damaged e hr

theorem readPacket_listens (address : UInt8) (deadline patience : Nat) (d : Decoder) (l : Line σ) :
    Ends (readPacket address deadline patience d) l fun r t _ => Listens address d r t := by
  induction patience generalizing d l with
  | zero =>
    exact Ends.thrown ⟨by simp, rfl, fun _ hr => (by cases hr), fun hr => (by cases hr),
      fun _ _ => Decoder.findsNone_of_listen rfl⟩
  | succ patience ih =>
    refine clocked fun now => Ends.andThen (receive_ends _ l) ?_ ?_
    · rintro (_ | b) _ l' rfl
      · dsimp only
        exact Ends.value ⟨by simp [Entry.IsControl], rfl, fun _ hr => (by cases hr), fun _ => rfl,
          fun _ hr => (by cases hr)⟩
      · refine maybe_noted fun notes hn l' => ?_
        rcases hp : d.push b with ⟨e | _ | p, d'⟩
        · have hdamage : d.listen address [b] = some (.error e, []) := by
            simp only [Decoder.listen, hp]
          refine Ends.failed ⟨by simp [Entry.IsControl, hn.traffic], by simp [Entry.sent, hn.sent],
            fun _ hr => (by cases hr), fun hr => (by cases hr), fun _ _ => ?_⟩
          exact Decoder.findsNone_of_damage (by simpa [Entry.heard?, hn.heard] using hdamage)
        · have hstep : ∀ rest, d.listen address (b :: rest) = d'.listen address rest := by
            intro rest
            simp only [Decoder.listen, hp]
          exact (ih d' l').weaken fun r t _ h => Listens.cons _ notes hn hstep h
        · dsimp only
          split
          · next ha =>
            have hfound : d.listen address [b] = some (.ok p, []) := by
              simp only [Decoder.listen, hp, if_pos ha]
            refine Ends.value ⟨by simp [Entry.IsControl, hn.traffic], by simp [Entry.sent, hn.sent],
              fun q hr => ?_, fun hr => (by cases hr), fun _ hr => (by cases hr)⟩
            cases hr
            simpa [Entry.heard?, hn.heard] using hfound
          · next ha =>
            have hstep : ∀ rest, d.listen address (b :: rest) = d'.listen address rest := by
              intro rest
              simp only [Decoder.listen, hp, if_neg ha]
            refine noted fun l'' => (ih d' l'').weaken fun r t _ h => ?_
            have hcons := Listens.cons (deadline - now) (notes ++ [.noted (.otherDevice p.address)])
              (hn.append (.note _)) hstep h
            rwa [List.append_assoc] at hcons
    · rintro h _ _ rfl
      exact ⟨by simp [Entry.IsControl], rfl, fun _ hr => (by cases hr), fun hr => (by cases hr),
        fun _ _ => Decoder.findsNone_of_listen rfl⟩

theorem awaitReply_listens (address : UInt8) (ms : Nat) (l : Line σ) :
    Ends (awaitReply address ms) l fun r t _ => Listens address .idle r t := by
  refine deadlined (fun deadline => Ends.read (readPacket_listens address deadline _ .idle l)) ?_
  exact ⟨by simp, rfl, fun _ hr => (by cases hr), fun hr => (by cases hr),
    fun _ _ => Decoder.findsNone_of_listen rfl⟩

end Lines

/-- Some whole copies of a packet, one after the other. -/
def copies (n : Nat) (packet : Bytes) : Bytes := (List.replicate n packet).flatten

/-- The bytes are whole copies of a packet, but for the last copy, which may be cut off. -/
def CopiesOf (packet : Bytes) (bytes : Bytes) : Prop :=
  ∃ n cut, bytes = copies n packet ++ cut ∧ cut <+: packet

theorem CopiesOf.cons {packet bytes : Bytes} (h : CopiesOf packet bytes) :
    CopiesOf packet (packet ++ bytes) := by
  obtain ⟨n, cut, rfl, hcut⟩ := h
  exact ⟨n + 1, cut, by simp [copies, List.replicate_succ], hcut⟩

/-- A packet that went out whole, and what was heard after it. -/
structure Tried (packet heard : Bytes) (t : Trace) : Prop where
  traffic : t.Traffic
  sent : t.sent = packet
  heard : t.heard = heard
  order : ∃ out back, t = out ++ back ∧ Trace.heard out = [] ∧ Trace.sent back = []

/-- A packet that went out in part or not at all, with nothing heard after it. -/
structure Dropped (packet : Bytes) (t : Trace) : Prop where
  traffic : t.Traffic
  sent : t.sent <+: packet
  heard : t.heard = []

/-- A packet that went out whole, after which no packet from the address was heard. -/
structure Missed (packet : Bytes) (address : UInt8) (t : Trace) : Prop extends
    Tried packet t.heard t where
  unheard : Decoder.idle.FindsNone address t.heard

/-- The last of the copies in the trace was answered: the first packet that was heard from the
address after a whole copy is the reply, and ends with the last byte heard. -/
def Answered (packet : Bytes) (address : UInt8) (reply : Packet) (t : Trace) : Prop :=
  ∃ (misses : List Trace) (last : Trace), t = misses.flatten ++ last ∧
    (∀ m ∈ misses, Missed packet address m) ∧ Tried packet last.heard last ∧
    Decoder.idle.listen address last.heard = some (.ok reply, [])

/-- No copy in the trace was answered by a packet with data. The last copy may be cut off with
nothing heard; a whole one may have got a packet without data, which ends the call. -/
def Unanswered (packet : Bytes) (address : UInt8) (h : Halt) (t : Trace) : Prop :=
  ∃ (misses : List Trace) (last : Trace), t = misses.flatten ++ last ∧
    (∀ m ∈ misses, Missed packet address m) ∧
    (Dropped packet last ∨ Tried packet last.heard last ∧
      (Decoder.idle.FindsNone address last.heard ∨
        ∃ p, Decoder.idle.listen address last.heard = some (.ok p, []) ∧ p.data = [] ∧
          h = .failed .emptyResponse))

theorem sent_misses {packet : Bytes} {address : UInt8} {misses : List Trace}
    (h : ∀ m ∈ misses, Missed packet address m) :
    Trace.sent misses.flatten = copies misses.length packet := by
  induction misses with
  | nil => rfl
  | cons m misses ih =>
    obtain ⟨hm, hms⟩ := List.forall_mem_cons.mp h
    rw [List.flatten_cons, Trace.sent_append, hm.sent, ih hms, List.length_cons]
    simp [copies, List.replicate_succ]

/-- The bytes of an answered call are whole copies of its packet. -/
theorem Answered.sent {packet : Bytes} {address : UInt8} {reply : Packet} {t : Trace}
    (h : Answered packet address reply t) : ∃ n, t.sent = copies (n + 1) packet := by
  obtain ⟨misses, last, rfl, hmisses, hlast, -⟩ := h
  refine ⟨misses.length, ?_⟩
  rw [Trace.sent_append, sent_misses hmisses, hlast.sent, copies, copies, List.replicate_succ',
    List.flatten_append]
  simp

/-- A missed try goes before an answered call. -/
theorem Answered.cons {packet : Bytes} {address : UInt8} {reply : Packet} {t u : Trace}
    (h : Answered packet address reply u) (ht : Missed packet address t) :
    Answered packet address reply (t ++ u) := by
  obtain ⟨misses, last, rfl, hmisses, hlast⟩ := h
  exact ⟨t :: misses, last, by simp, List.forall_mem_cons.mpr ⟨ht, hmisses⟩, hlast⟩

/-- A missed try goes before an unanswered call. -/
theorem Unanswered.cons {packet : Bytes} {address : UInt8} {h : Halt} {t u : Trace}
    (hu : Unanswered packet address h u) (ht : Missed packet address t) :
    Unanswered packet address h (t ++ u) := by
  obtain ⟨misses, last, rfl, hmisses, hlast⟩ := hu
  exact ⟨t :: misses, last, by simp, List.forall_mem_cons.mpr ⟨ht, hmisses⟩, hlast⟩

/-- A call that ended with a packet that did not go out whole. -/
theorem Dropped.unanswered {packet : Bytes} {address : UInt8} {h : Halt} {t : Trace}
    (ht : Dropped packet t) : Unanswered packet address h t :=
  ⟨[], t, rfl, by simp, .inl ht⟩

theorem Dropped.nil (packet : Bytes) : Dropped packet [] :=
  ⟨by simp, List.nil_prefix, rfl⟩

/-- A call that ended after its last try. -/
theorem Tried.unanswered {packet heard : Bytes} {address : UInt8} {h : Halt} {t : Trace}
    (ht : Tried packet heard t)
    (hno : Decoder.idle.FindsNone address heard ∨
      ∃ p, Decoder.idle.listen address heard = some (.ok p, []) ∧ p.data = [] ∧
        h = .failed .emptyResponse) : Unanswered packet address h t := by
  obtain ⟨htraffic, hsent, rfl, horder⟩ := ht
  exact ⟨[], t, rfl, by simp, .inr ⟨⟨htraffic, hsent, rfl, horder⟩, hno⟩⟩

section Calls

variable {σ : Type}

/-- What one call does: what goes out, and what becomes of channel and command. -/
structure Talks (packet : Bytes) (link : Link σ Channel) (r : Except Halt Status) (t : Trace)
    (link' : Link σ Channel) : Prop where
  traffic : t.Traffic
  sent : CopiesOf packet t.sent
  accepted : ∀ status, r = .ok status → ∃ reply b, Answered packet link.command.address reply t ∧
    reply.data.head? = some b ∧ status = .ofByte b ∧
    link'.channel = ⟨!link.channel.sequence⟩ ∧
    link'.command = { link.command with response := reply.data }
  kept : ∀ h, r = .error h → link'.channel = link.channel ∧ link'.command = link.command
  unanswered : ∀ h, r = .error h → Unanswered packet link.command.address h t

theorem Tried.append {packet heard : Bytes} {t u : Trace} (h : Tried packet heard t)
    (hu : u.Silent) : Tried packet heard (t ++ u) where
  traffic := h.traffic.append hu.traffic
  sent := by rw [Trace.sent_append, h.sent, hu.sent, List.append_nil]
  heard := by rw [Trace.heard_append, h.heard, hu.heard, List.append_nil]
  order := by
    obtain ⟨out, back, rfl, hout, hback⟩ := h.order
    refine ⟨out, back ++ u, List.append_assoc .., hout, ?_⟩
    rw [Trace.sent_append, hback, hu.sent, List.append_nil]

/-- Sending after a note, then hearing something. -/
theorem Tried.of_sends {packet : Bytes} {t u : Trace} (h : Sends packet (.ok ()) t)
    (hu : u.Traffic ∧ u.sent = []) (n : Note) :
    Tried packet u.heard (.noted n :: (t ++ u)) where
  traffic := by simp [Entry.IsControl, h.traffic, hu.1]
  sent := by simp [Entry.sent, h.whole, hu.2]
  heard := by simp [Entry.heard?, h.heard]
  order := ⟨.noted n :: t, u, rfl, by simp [Entry.heard?, h.heard], hu.2⟩

/-- A try without an accepted answer ends the call with an error. -/
theorem Tried.fails {packet heard : Bytes} {t : Trace} {link link' : Link σ Channel} {h : Halt}
    (ht : Tried packet heard t)
    (hno : Decoder.idle.FindsNone link.command.address heard ∨
      ∃ p, Decoder.idle.listen link.command.address heard = some (.ok p, []) ∧ p.data = [] ∧
        h = .failed .emptyResponse)
    (hch : link'.channel = link.channel) (hco : link'.command = link.command) :
    Talks packet link (.error h) t link' where
  traffic := ht.traffic
  sent := ⟨1, [], by simp [copies, ht.sent], List.nil_prefix⟩
  accepted _ hr := by cases hr
  kept _ _ := ⟨hch, hco⟩
  unanswered _ hr := by
    cases hr
    exact ht.unanswered hno

/-- A try that came to nothing, and a note, go before the rest of the call. -/
theorem Talks.retry {packet heard : Bytes} {link link₁ link' : Link σ Channel} {n : Note}
    {r : Except Halt Status} {t u : Trace} (h : Talks packet link₁ r u link')
    (ht : Tried packet heard t)
    (hno : Decoder.idle.FindsNone link.command.address heard)
    (hch : link₁.channel = link.channel) (hco : link₁.command = link.command) :
    Talks packet link r (t ++ .noted n :: u) link' := by
  have htried := ht.append (.note n)
  rw [← ht.heard] at hno
  have hmissed : Missed packet link.command.address (t ++ [.noted n]) := by
    refine ⟨⟨htried.traffic, htried.sent, rfl, htried.order⟩, ?_⟩
    rwa [Trace.heard_append, Trace.Silent.heard (.note n), List.append_nil]
  have hsplit : t ++ .noted n :: u = (t ++ [.noted n]) ++ u := by simp
  rw [hsplit]
  constructor
  · exact htried.traffic.append h.traffic
  · rw [Trace.sent_append, htried.sent]
    exact h.sent.cons
  · intro status hr
    obtain ⟨reply, b, hreply, hrest⟩ := h.accepted status hr
    rw [hch, hco] at hrest
    rw [hco] at hreply
    exact ⟨reply, b, hreply.cons hmissed, hrest⟩
  · intro h' hr
    rw [← hch, ← hco]
    exact h.kept h' hr
  · intro h' hr
    have hu := h.unanswered h' hr
    rw [hco] at hu
    exact hu.cons hmissed

/-- A packet that did not go out whole ends the call with an error. -/
theorem Talks.unsent {packet : Bytes} {t : Trace} {link link' : Link σ Channel} {h : Halt}
    (hs : Sends packet (.error h) t) (n : Note) (hch : link'.channel = link.channel)
    (hco : link'.command = link.command) : Talks packet link (.error h) (.noted n :: t) link' where
  traffic := by simp [Entry.IsControl, hs.traffic]
  sent := ⟨0, t.sent, by simp [copies, Entry.sent], hs.cut⟩
  accepted _ hr := by cases hr
  kept _ _ := ⟨hch, hco⟩
  unanswered _ _ := Dropped.unanswered
    ⟨by simp [Entry.IsControl, hs.traffic], by simpa [Entry.sent] using hs.cut,
      by simp [Entry.heard?, hs.heard]⟩

/-- A try whose answer was accepted ends the call. -/
theorem Tried.accepted {packet heard : Bytes} {t : Trace} {link link' : Link σ Channel}
    {reply : Packet} {b : UInt8} (ht : Tried packet heard t)
    (hl : Decoder.idle.listen link.command.address heard = some (.ok reply, []))
    (hb : reply.data.head? = some b) (hch : link'.channel = ⟨!link.channel.sequence⟩)
    (hco : link'.command = { link.command with response := reply.data }) :
    Talks packet link (.ok (.ofByte b)) t link' where
  traffic := ht.traffic
  sent := ⟨1, [], by simp [copies, ht.sent], List.nil_prefix⟩
  accepted status hr := by
    cases hr
    rw [← ht.heard] at hl
    exact ⟨reply, b, ⟨[], t, rfl, by simp, ⟨ht.traffic, ht.sent, rfl, ht.order⟩, hl⟩, hb, rfl, hch,
      hco⟩
  kept _ hr := by cases hr
  unanswered _ hr := by cases hr

variable [SerialHost σ]

theorem onLine_ends {κ α : Type} {act : LineM σ α} {link : Link σ κ}
    {Q : Except Halt α → Trace → Link σ κ → Prop}
    (h : Ends act link.line fun r t l => Q r t { link with line := l }) :
    Ends (Link.onLine act) link Q := Ends.part rfl (fun _ => rfl) h

theorem link_noted {κ α : Type} {n : Note} {k : Unit → LinkM σ κ α} {link : Link σ κ}
    {Q : Except Halt α → Trace → Link σ κ → Prop}
    (h : ∀ l, Ends (k ()) { link with line := l } fun r t link' => Q r (.noted n :: t) link') :
    Ends (Link.note n >>= k) link Q := by
  refine Ends.andThen (P := fun r t link' => r = .ok () ∧ t = [.noted n] ∧
    ∃ l, link' = { link with line := l }) (onLine_ends (note_ends ⟨rfl, rfl, _, rfl⟩)) ?_ ?_
  · rintro _ _ _ ⟨-, rfl, l, rfl⟩
    exact h l
  · rintro _ _ _ ⟨hr, -⟩
    cases hr

/-- A reply with data is kept and turns the flag; an empty one is refused. -/
theorem complete_ends (reply : Packet) (link : Link σ Channel) :
    Ends (complete reply) link fun r t link' => t = [.noted (.packetReceived reply.data)] ∧
      ((∃ b, reply.data.head? = some b ∧ r = .ok (.ofByte b) ∧
          link'.channel = ⟨!link.channel.sequence⟩ ∧
          link'.command = { link.command with response := reply.data }) ∨
        (reply.data = [] ∧ r = .error (.failed .emptyResponse) ∧ link'.channel = link.channel ∧
          link'.command = link.command)) := by
  refine link_noted fun l => ?_
  rcases hd : reply.data with _ | ⟨b, rest⟩
  · exact Ends.failed ⟨rfl, .inr ⟨rfl, rfl, rfl, rfl⟩⟩
  · exact Ends.change rfl (Ends.value ⟨rfl, .inl ⟨b, rfl, rfl, rfl, rfl⟩⟩)

/-- The packet that was heard after a try ends the call. -/
theorem complete_talks {packet heard : Bytes} {t : Trace} {link link₁ : Link σ Channel}
    {reply : Packet} (ht : Tried packet heard t)
    (hl : Decoder.idle.listen link.command.address heard = some (.ok reply, []))
    (hch : link₁.channel = link.channel) (hco : link₁.command = link.command) :
    Ends (complete reply) link₁ fun r u link' => Talks packet link r (t ++ u) link' := by
  refine (complete_ends reply link₁).weaken ?_
  have htried := ht.append (.note (.packetReceived reply.data))
  rintro r _ link' ⟨rfl, ⟨b, hb, rfl, hch', hco'⟩ | ⟨hempty, rfl, hch', hco'⟩⟩
  · exact htried.accepted hl hb (hch ▸ hch') (hco ▸ hco')
  · exact htried.fails (.inr ⟨reply, hl, hempty, rfl⟩) (hch'.trans hch) (hco'.trans hco)

/-- Waiting for the reply to a try; a failure of it is a value. -/
theorem heard_ends (address : UInt8) (ms : Nat) (link : Link σ Channel) :
    Ends (attempt (Link.onLine (awaitReply address ms))) link fun r t link' =>
      (t.Traffic ∧ t.sent = []) ∧ (link'.channel = link.channel ∧ link'.command = link.command) ∧
        ((∃ p, r = .ok (.ok (some p)) ∧ Decoder.idle.listen address t.heard = some (.ok p, [])) ∨
          (∀ p, r ≠ .ok (.ok (some p))) ∧ Decoder.idle.FindsNone address t.heard) := by
  refine Ends.caught (onLine_ends ((awaitReply_listens address ms link.line).weaken ?_))
  rintro r t l h
  have hnone := fun hr => Decoder.findsNone_of_listen (h.missed hr)
  match r with
  | .ok (some p) => exact ⟨⟨h.traffic, h.sent⟩, ⟨rfl, rfl⟩, .inl ⟨p, rfl, h.found p rfl⟩⟩
  | .ok none => exact ⟨⟨h.traffic, h.sent⟩, ⟨rfl, rfl⟩, .inr ⟨nofun, hnone rfl⟩⟩
  | .error (.failed e) =>
    exact ⟨⟨h.traffic, h.sent⟩, ⟨rfl, rfl⟩, .inr ⟨nofun, h.damaged _ rfl⟩⟩
  | .error (.unfinished _) =>
    exact ⟨⟨h.traffic, h.sent⟩, ⟨rfl, rfl⟩, .inr ⟨nofun, h.damaged _ rfl⟩⟩

/-- The attempts of a call, by induction on those left: every attempt finds channel and command as
they were at the start. -/
theorem exchange_talks (packet : Bytes) (attempts left : Nat) (last : Option Error)
    (link : Link σ Channel) :
    Ends (exchange packet attempts left last) link fun r t link' =>
      Talks packet link r t link' := by
  induction left generalizing last link with
  | zero =>
    exact Ends.read (Ends.failed ⟨by simp, ⟨0, [], rfl, List.nil_prefix⟩, fun _ hr => (by cases hr),
      fun _ _ => ⟨rfl, rfl⟩, fun _ _ => (Dropped.nil packet).unanswered⟩)
  | succ left ih =>
    refine Ends.read (link_noted fun l => ?_)
    refine Ends.andThen (onLine_ends (Q := fun r t link' => Sends packet r t ∧
      link'.channel = link.channel ∧ link'.command = link.command)
      ((send_sends packet l).weaken fun _ _ _ h => ⟨h, rfl, rfl⟩)) ?_ ?_
    · rintro _ t₁ link₁ ⟨hs, hch₁, hco₁⟩
      refine Ends.andThen (heard_ends link.command.address link.command.timeout link₁) ?_ ?_
      · rintro answer t₂ link₂ ⟨hquiet, ⟨hch₂, hco₂⟩, hfound⟩
        have htried := Tried.of_sends hs hquiet (.packetSent (attempts - left) attempts packet)
        have hch := hch₂.trans hch₁
        have hco := hco₂.trans hco₁
        obtain ⟨reply, hr, hlisten⟩ | ⟨hnone, hno⟩ := hfound
        · cases hr
          refine (complete_talks htried hlisten hch hco).weaken fun r t₃ link₃ h => ?_
          rwa [List.cons_append, List.append_assoc] at h
        match answer, hnone with
        | .ok (some reply), hnone => exact absurd rfl (hnone reply)
        | .ok none, _ =>
          refine link_noted fun l₃ => (ih last { link₂ with line := l₃ }).weaken ?_
          intro r u link' h
          rw [← List.append_assoc]
          exact h.retry htried hno hch hco
        | .error e, _ =>
          dsimp only
          split
          · refine link_noted fun l₃ => (ih (some e) { link₂ with line := l₃ }).weaken ?_
            intro r u link' h
            rw [← List.append_assoc]
            exact h.retry htried hno hch hco
          · refine Ends.failed ?_
            rw [List.append_nil]
            exact htried.fails (.inl hno) hch hco
      · rintro h t₂ link₂ ⟨hquiet, ⟨hch₂, hco₂⟩, hfound⟩
        obtain ⟨_, hr, -⟩ | ⟨-, hno⟩ := hfound
        · cases hr
        · exact (Tried.of_sends hs hquiet _).fails (.inl hno) (hch₂.trans hch₁) (hco₂.trans hco₁)
    · rintro h t link' ⟨hs, hch, hco⟩
      exact .unsent hs _ hch hco

/-- A command that is not encrypted and fits a packet goes out as that packet. -/
theorem transact_talks (link : Link σ Channel) (he : link.command.encrypted = false)
    (hd : link.command.data.length ≤ 255) :
    Ends transact link fun r t link' =>
      Talks (Packet.framed ⟨seqAddr link.channel.sequence link.command.address, link.command.data⟩)
        link r t link' := by
  refine Ends.read ?_
  rw [if_neg (by simp [he])]
  exact Ends.result (Packet.encode_eq hd) (exchange_talks _ _ _ none link)

/-- A sync is the sync command with the flag set first. -/
theorem sync_talks (link : Link σ Channel) (he : link.command.encrypted = false) :
    Ends sync link fun r t link' =>
      Talks (Packet.framed ⟨seqAddr true link.command.address, [syncCode]⟩)
        ⟨link.line, ⟨true⟩, { link.command with data := [syncCode] }⟩ r t link' := by
  exact Ends.change rfl (transact_talks _ he (by simp))

end Calls

end Channel

end SspUpdate
