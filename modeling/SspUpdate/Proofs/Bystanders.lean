import SspUpdate.Proofs.Alternation
import SspUpdate.Proofs.Retries

/-!
# Traffic of other devices

Several devices can be on one line, and a call hears what all of them send. A
decoder comes out of their packets as it went in, and so it does out of any
bytes without a start byte. What such traffic leaves in front of a reply is
therefore read and dropped: the call ends in all respects as it would with the
reply alone.
-/

namespace SspUpdate

namespace Decoder

/-- Who listens passes over bytes that are answered by nothing but packets from elsewhere. -/
theorem listen_passes {address : UInt8} {d d' : Decoder} {bytes : Bytes} {answers : List Answer}
    (h : d.feed bytes = (answers, d'))
    (hpasses : ∀ a ∈ answers, a = .ok none ∨ ∃ p, a = .ok (some p) ∧ p.address ≠ address)
    (rest : Bytes) : d.listen address (bytes ++ rest) = d'.listen address rest := by
  induction bytes generalizing d answers with
  | nil =>
    cases h
    rfl
  | cons b bytes ih =>
    obtain ⟨answer, next, hpush⟩ : ∃ answer next, d.push b = (answer, next) := ⟨_, _, rfl⟩
    simp only [feed, hpush, Prod.mk.injEq] at h
    obtain ⟨rfl, hlast⟩ := h
    obtain ⟨hanswer, hanswers⟩ := List.forall_mem_cons.mp hpasses
    have hrest := ih (Prod.ext rfl hlast) hanswers
    simp only [List.cons_append, listen, hpush]
    obtain rfl | ⟨p, rfl, hp⟩ := hanswer
    · exact hrest
    · dsimp only
      rw [if_neg hp, hrest]

/-- What is met in listening is met with more bytes behind, too. -/
theorem listen_append {address : UInt8} {d : Decoder} {bytes left : Bytes}
    {found : Except Error Packet} (h : d.listen address bytes = some (found, left))
    (rest : Bytes) : d.listen address (bytes ++ rest) = some (found, left ++ rest) := by
  induction bytes generalizing d with
  | nil => cases h
  | cons b bytes ih =>
    obtain ⟨answer, next, hpush⟩ : ∃ answer next, d.push b = (answer, next) := ⟨_, _, rfl⟩
    simp only [List.cons_append, listen, hpush] at h ⊢
    rcases answer with e | _ | p
    · cases h
      rfl
    · exact ih h
    · dsimp only at h ⊢
      split at h
      · next hp =>
        cases h
        rw [if_pos hp]
      · next hp =>
        rw [if_neg hp]
        exact ih h

end Decoder

/-- What a device at another address sends, and noise: bytes among which no packet can begin. -/
inductive Foreign (address : UInt8) : Bytes → Prop where
  | packet {p : Packet} {frame : Bytes} (encoded : p.encode = .ok frame)
    (other : p.address ≠ address) : Foreign address frame
  | noise {bytes : Bytes} (clear : startByte ∉ bytes) : Foreign address bytes

namespace Foreign

variable {address : UInt8}

/-- The step: an idle decoder goes through one piece of traffic and is idle again. -/
theorem listen {item : Bytes} (h : Foreign address item) (rest : Bytes) :
    Decoder.idle.listen address (item ++ rest) = Decoder.idle.listen address rest := by
  have hquiet : ∀ {n : Nat} {a : Decoder.Answer}, a ∈ Decoder.quiet n → a = .ok none :=
    fun ha => (List.mem_replicate.mp ha).2
  cases h with
  | noise clear =>
    exact Decoder.listen_passes (Decoder.feed_idle clear) (fun a ha => .inl (hquiet ha)) rest
  | @packet p frame encoded other =>
    have hfits := p.exists_encode_iff.mp ⟨_, encoded⟩
    have hfeed := Decoder.feed_framed hfits
    rw [← Packet.framed_eq encoded] at hfeed
    refine Decoder.listen_passes hfeed (fun a ha => ?_) rest
    obtain ha | ha := List.mem_append.mp ha
    · exact .inl (hquiet ha)
    · exact .inr ⟨p, List.mem_singleton.mp ha, other⟩

/-- The run: all of the traffic is passed over. -/
theorem listen_flatten {items : List Bytes} (h : ∀ item ∈ items, Foreign address item)
    (rest : Bytes) :
    Decoder.idle.listen address (items.flatten ++ rest) = Decoder.idle.listen address rest := by
  induction items with
  | nil => rfl
  | cons item items ih =>
    obtain ⟨hitem, hitems⟩ := List.forall_mem_cons.mp h
    rw [List.flatten_cons, List.append_assoc, hitem.listen, ih hitems]

end Foreign

/-- Behind traffic of other devices the reply is heard, and nothing of what comes after it. -/
theorem hear_behind {items : List Bytes} {reply : Packet} {frame : Bytes}
    (h : ∀ item ∈ items, Foreign reply.address item) (encoded : reply.encode = .ok frame)
    (rest : Bytes) :
    let heard := hear reply.address (items.flatten ++ (frame ++ rest))
    heard.found = some (.ok reply) ∧ heard.left = rest := by
  have halone : Decoder.idle.listen reply.address frame = some (.ok reply, []) :=
    Passage.listened ⟨[], reply, frame, List.not_mem_nil, encoded⟩
  have hlisten : Decoder.idle.listen reply.address (items.flatten ++ (frame ++ rest)) =
      some (.ok reply, rest) := by
    rw [Foreign.listen_flatten h]
    exact Decoder.listen_append halone rest
  constructor
  · simp [hear, Decoder.finds, hlisten]
  · simp [hear, Decoder.leaves, hlisten]

namespace Channel

/-- A call whose first attempt hears a packet with data ends there. -/
theorem Settles.first {link link' : Link Wire Channel} {h : Hearing} {later : List Hearing}
    {p : Packet} {b : UInt8} {k : Nat} {r : Except Halt Status}
    (hsettles : Settles link (h :: later) k r link') (hfound : h.found = some (.ok p))
    (hb : p.data.head? = some b) :
    k = 1 ∧ r = .ok (.ofByte b) ∧ link'.line.host.queue = h.left ∧
      link'.channel = ⟨!link.channel.sequence⟩ ∧
      link'.command = { link.command with response := p.data } := by
  have hheard : ¬ h.Missed := by
    rintro (hnone | ⟨_, _, hdamage⟩)
    · cases hfound.symm.trans hnone
    · cases hfound.symm.trans hdamage
  have hfirst : ∀ {missed later' : List Hearing} {h' : Hearing}, h :: later = missed ++ h' :: later' →
      (∀ m ∈ missed, m.Missed) → missed = [] ∧ h = h' := by
    intro missed later' h' hsplit hmissed
    cases missed with
    | nil => exact ⟨rfl, (List.cons.inj hsplit).1⟩
    | cons m missed =>
      have hm : h = m := (List.cons.inj hsplit).1
      exact absurd (hm ▸ hmissed m List.mem_cons_self) hheard
  cases hsettles with
  | answered split before found first queue channel command =>
    obtain ⟨rfl, rfl⟩ := hfirst split before
    cases hfound.symm.trans found
    cases hb.symm.trans first
    exact ⟨rfl, rfl, queue, channel, command⟩
  | empty split before found data queue channel command =>
    obtain ⟨rfl, rfl⟩ := hfirst split before
    cases hfound.symm.trans found
    rw [data] at hb
    cases hb
  | unheard all channel command => exact absurd (all h List.mem_cons_self) hheard

/-- What can be seen of a call: how it ends, what it leaves of channel and command, and what went
over the wire. -/
structure Observed where
  result : Except Halt Status
  channel : Channel
  command : Command
  /-- All bytes the wire took so far. -/
  written : Bytes
  /-- The bytes that wait behind the call. -/
  left : Bytes

def Observed.of (last : Except Halt Status × Link Wire Channel) : Observed :=
  ⟨last.1, last.2.channel, last.2.command, last.2.line.host.written, last.2.line.host.queue⟩

/-- A line with these bytes in its receive queue. -/
def queued (line : Line Wire) (queue : Bytes) : Line Wire :=
  { line with host := { line.host with queue } }

namespace Request

/-- A call on a wire whose receive queue is given. -/
def observed (request : Request) (line : Line Wire) (channel : Channel) (queue : Bytes) :
    Observed :=
  .of (ended request.act ⟨queued line queue, channel, request.given⟩)

/-- The command of the request becomes a packet. -/
def Sendable (request : Request) : Prop :=
  request.command.encrypted = false ∧ request.command.data.length ≤ 255

/-- Both kinds of calls send their command, with the flag of their packet. -/
theorem observed_eq (request : Request) (line : Line Wire) (channel : Channel) (queue : Bytes) :
    request.observed line channel queue =
      .of (ended transact ⟨queued line queue, ⟨request.sequence channel⟩, request.command⟩) := by
  cases request <;> rfl

theorem packet_eq (request : Request) (channel : Channel) : request.packet channel =
    ⟨seqAddr (request.sequence channel) request.command.address, request.command.data⟩ := by
  cases request <;> rfl

/-- A command that does not become a packet is refused before anything is written or read. -/
theorem observed_unsendable {request : Request} (h : ¬ request.Sendable) :
    ∃ e, ∀ line channel queue, request.observed line channel queue =
      ⟨.error (.failed e), ⟨request.sequence channel⟩, request.command, line.host.written, queue⟩ := by
  have hobserved : ∀ {e : Error}, (∀ link : Link Wire Channel, link.command = request.command →
      Reaches transact link fun r link' => r = .error (.failed e) ∧ link' = link) →
      ∀ line channel queue, request.observed line channel queue = ⟨.error (.failed e),
        ⟨request.sequence channel⟩, request.command, line.host.written, queue⟩ := by
    intro e hrefused line channel queue
    obtain ⟨hr, hlink⟩ := hrefused
      ⟨queued line queue, ⟨request.sequence channel⟩, request.command⟩ rfl
    rw [observed_eq, Observed.of, hr, hlink]
    rfl
  by_cases hclear : request.command.encrypted = true
  · refine ⟨.encrypted, hobserved fun link hlink => ?_⟩
    refine read_reaches ?_
    rw [hlink, if_pos hclear]
    exact ⟨rfl, rfl⟩
  · have hlong : ¬ request.command.data.length ≤ 255 :=
      fun hfits => h ⟨Bool.not_eq_true _ ▸ hclear, hfits⟩
    refine ⟨.dataTooLong request.command.data.length, hobserved fun link hlink => ?_⟩
    refine read_reaches ?_
    rw [hlink, if_neg hclear]
    dsimp only
    rw [Packet.encode, if_neg hlong]
    exact ⟨rfl, rfl⟩

variable {request : Request} {line : Line Wire} {channel : Channel} {items : List Bytes}
  {reply : Packet} {frame rest : Bytes}

/-- A call behind traffic of other devices, put together from the reply alone. -/
theorem observed_behind (faultless : line.host.Faultless) (sendable : request.Sendable)
    (patient : request.command.timeout + 2 ≤ line.patience)
    (long : (items.flatten ++ (frame ++ rest)).length < line.patience)
    (foreign : ∀ item ∈ items, Foreign request.command.address item)
    (encoded : reply.encode = .ok frame) (sender : reply.address = request.command.address)
    (data : reply.data ≠ []) :
    request.observed line channel (items.flatten ++ (frame ++ rest)) =
      ⟨.ok (.ofByte (reply.data.head data)), ⟨!request.sequence channel⟩,
        { request.command with response := reply.data },
        line.host.written ++ (request.packet channel).framed, rest⟩ := by
  let link : Link Wire Channel := ⟨queued line (items.flatten ++ (frame ++ rest)),
    ⟨request.sequence channel⟩, request.command⟩
  have hserves : Serves link := by
    refine ⟨⟨faultless.faults, faultless.emptyError, faultless.writeLimit⟩, patient, ?_⟩
    have hreplies : link.line.host.replies = [] := faultless.replies
    rw [hreplies, List.flatten_nil, List.append_nil]
    exact long
  obtain ⟨k, -, hwritten, hsettles⟩ := transact_settles hserves sendable.1 sendable.2
  have hwaiting : link.line.host.queue ++ link.line.host.replies.headD [] =
      items.flatten ++ (frame ++ rest) := by
    have hreplies : link.line.host.replies = [] := faultless.replies
    rw [hreplies]
    exact List.append_nil _
  obtain ⟨later, houtlook⟩ := outlook_cons link
  have haddress : link.command.address = reply.address := sender.symm
  rw [← sender] at foreign
  obtain ⟨hfound, hleft⟩ := hear_behind foreign encoded rest
  have hfirst : reply.data.head? = some (reply.data.head data) := List.head?_eq_some_head data
  rw [houtlook, hwaiting, haddress] at hsettles
  obtain ⟨rfl, hr, hqueue, hchannel, hcommand⟩ := hsettles.first hfound hfirst
  have hcopies : copies 1 (request.packet channel).framed = (request.packet channel).framed :=
    List.append_nil _
  rw [observed_eq, Observed.of, hr, hchannel, hcommand, hqueue, hleft, hwritten, ← hcopies,
    packet_eq]
  rfl

/-- Traffic of other devices is invisible: on a faultless wire, a sync or a command whose reply
waits behind any number of packets from other addresses and stretches of noise cannot be told from
one whose reply waits alone. Both write one packet, take the reply and leave what is behind it. A
command that does not become a packet fails the same over any queue and touches none. -/
theorem observed_ignores_foreign (faultless : line.host.Faultless)
    (patient : request.command.timeout + 2 ≤ line.patience)
    (long : (items.flatten ++ (frame ++ rest)).length < line.patience)
    (foreign : ∀ item ∈ items, Foreign request.command.address item)
    (encoded : reply.encode = .ok frame) (sender : reply.address = request.command.address)
    (data : reply.data ≠ []) :
    (request.Sendable →
      request.observed line channel (items.flatten ++ (frame ++ rest)) =
        request.observed line channel (frame ++ rest) ∧
      ∃ packet, (request.packet channel).encode = .ok packet ∧
        request.observed line channel (frame ++ rest) =
          ⟨.ok (.ofByte (reply.data.head data)), ⟨!request.sequence channel⟩,
            { request.command with response := reply.data }, line.host.written ++ packet, rest⟩) ∧
    (¬ request.Sendable → ∃ e, ∀ queue, request.observed line channel queue =
      ⟨.error (.failed e), ⟨request.sequence channel⟩, request.command, line.host.written,
        queue⟩) := by
  constructor
  · intro sendable
    have hencode : (request.packet channel).encode = .ok (request.packet channel).framed := by
      rw [packet_eq]
      exact Packet.encode_eq sendable.2
    have hshort : (frame ++ rest).length < line.patience := by
      rw [List.length_append] at long
      exact Nat.lt_of_le_of_lt (Nat.le_add_left _ _) long
    have halone : request.observed line channel (List.flatten [] ++ (frame ++ rest)) = _ :=
      observed_behind faultless sendable patient hshort (List.forall_mem_nil _) encoded sender data
    have hcrowded : request.observed line channel (items.flatten ++ (frame ++ rest)) = _ :=
      observed_behind faultless sendable patient long foreign encoded sender data
    exact ⟨hcrowded.trans halone.symm, _, hencode, halone⟩
  · intro hunsendable
    obtain ⟨e, he⟩ := observed_unsendable hunsendable
    exact ⟨e, fun queue => he line channel queue⟩

/-- A reply behind noise and a packet that is full of start bytes, from the address that is the
start byte. -/
theorem observed_ignores_foreign_doubled :
    let request : Request := .send { Command.new 0 with timeout := 1, data := [0x07] }
    let line : Line Wire := ⟨{}, [], 40⟩
    let items : List Bytes := [[0xF0, 0x00], Packet.framed ⟨0x7F, [0x7F, 0x7F]⟩]
    let reply : Packet := ⟨0x80, [0xF0, 0x7F]⟩
    let rest : Bytes := [0x7F, 0x80]
    line.host.Faultless ∧ request.command.timeout + 2 ≤ line.patience ∧
      (items.flatten ++ (reply.framed ++ rest)).length < line.patience ∧
      (∀ item ∈ items, Foreign request.command.address item) ∧
      reply.address = request.command.address ∧ reply.data ≠ [] ∧ request.Sendable ∧
      request.observed line .new (items.flatten ++ (reply.framed ++ rest)) =
        request.observed line .new (reply.framed ++ rest) ∧
      (request.observed line .new (reply.framed ++ rest)).left = rest := by
  intro request line items reply rest
  have hfaultless : line.host.Faultless := ⟨rfl, rfl, rfl, nofun⟩
  have hpatient : request.command.timeout + 2 ≤ line.patience := by decide
  have hlong : (items.flatten ++ (reply.framed ++ rest)).length < line.patience := by
    decide +kernel
  have hforeign : ∀ item ∈ items, Foreign request.command.address item := by
    refine List.forall_mem_cons.mpr ⟨.noise (by decide), List.forall_mem_singleton.mpr ?_⟩
    exact .packet (Packet.encode_eq (by decide)) (by decide)
  have hsender : reply.address = request.command.address := by decide
  have hdata : reply.data ≠ [] := by decide
  have hsendable : request.Sendable := ⟨rfl, by decide⟩
  obtain ⟨hsame, packet, -, halone⟩ := (@observed_ignores_foreign request line .new items reply
    reply.framed rest hfaultless hpatient hlong hforeign (Packet.encode_eq (by decide)) hsender
    hdata).1 hsendable
  exact ⟨hfaultless, hpatient, hlong, hforeign, hsender, hdata, hsendable, hsame, by rw [halone]⟩

end Request

end Channel

end SspUpdate
