import Mathlib.Control.Monad.Basic
import SspUpdate.Proofs.Conversation
import SspUpdate.Wire

/-!
# Which reply a call takes

A run of calls on one packet channel, each with a command of its caller's
choice. A call takes the first packet from its device that it hears after its
own packet went out, whatever the flag of that packet is. So a late answer to
an earlier copy can pass for the answer to the next command.
-/

namespace SspUpdate

namespace Channel

/-- A call on the packet channel, with the command as the caller left it. -/
inductive Request where
  | sync (given : Command)
  | send (given : Command)

namespace Request

def given : Request → Command
  | sync command | send command => command

/-- The command that goes out. -/
def command : Request → Command
  | sync command => { command with data := [syncCode] }
  | send command => command

/-- The packet that carries the command. -/
def packet (channel : Channel) : Request → Packet
  | sync command => ⟨seqAddr true command.address, [syncCode]⟩
  | send command => ⟨seqAddr channel.sequence command.address, command.data⟩

def act {σ : Type} [SerialHost σ] : Request → LinkM σ Channel Status
  | sync _ => Channel.sync
  | send _ => transact

end Request

/-- A call that was made, with the command as the call left it. -/
structure Call where
  request : Request
  packet : Packet
  result : Except Halt Status
  command : Command
  trace : Trace

/-- What every call does, and which packet it takes: the first one from the address that is
heard after a whole copy of its own packet. -/
structure Call.Served (c : Call) : Prop where
  traffic : c.trace.Traffic
  sent : CopiesOf c.packet.framed c.trace.sent
  accepted : ∀ status, c.result = .ok status → ∃ reply,
    Answered c.packet.framed c.request.command.address reply c.trace ∧
      reply.status? = some status ∧
      c.command = { c.request.command with response := reply.data }
  refused : ∀ h, c.result = .error h → c.command = c.request.command ∧
    Unanswered c.packet.framed c.request.command.address h c.trace

section Lines

variable {σ : Type} [SerialHost σ]

/-- One call, and the link behind it. -/
def Request.call (request : Request) (link : Link σ Channel) : Call × Link σ Channel :=
  let made (result : Except Halt Status) (link' : Link σ Channel) : Call × Link σ Channel :=
    (⟨request, request.packet link.channel, result, link'.command,
      link'.line.history.drop link.line.history.length⟩, link')
  match request.act { link with command := request.given } with
  | .ok status link' => made (.ok status) link'
  | .error h link' => made (.error h) link'

/-- Calls one after the other on one channel. -/
def talk : List Request → Link σ Channel → List Call × Link σ Channel
  | [], link => ([], link)
  | request :: requests, link =>
    let first := request.call link
    let rest := talk requests first.2
    (first.1 :: rest.1, rest.2)

/-- A call that has failed before anything went out. -/
theorem Call.Served.unsent (request : Request) (packet : Packet) (h : Halt) :
    Call.Served ⟨request, packet, .error h, request.command, []⟩ where
  traffic := by simp
  sent := ⟨0, [], rfl, List.nil_prefix⟩
  accepted _ hr := by cases hr
  refused _ _ := ⟨rfl, (Dropped.nil _).unanswered⟩

omit [SerialHost σ] in
theorem Call.Served.of_talks {request : Request} {packet : Packet} {link link' : Link σ Channel}
    {r : Except Halt Status} {t : Trace} (hlink : link.command = request.command)
    (h : Talks packet.framed link r t link') :
    Call.Served ⟨request, packet, r, link'.command, t⟩ where
  traffic := h.traffic
  sent := h.sent
  accepted status hr := by
    cases hr
    obtain ⟨reply, hreply, hstatus, -, hcommand⟩ := h.accepts
    rw [hlink] at hreply hcommand
    exact ⟨reply, hreply, hstatus, hcommand⟩
  refused e hr := by
    have hu := h.unanswered e hr
    rw [hlink] at hu
    exact ⟨(h.kept e hr).2.trans hlink, hu⟩

/-- Sending the command of a request, which the link already holds. -/
theorem transact_serves (request : Request) (link : Link σ Channel)
    (hlink : link.command = request.command) :
    Ends transact link fun r t link' => Call.Served ⟨request,
      ⟨seqAddr link.channel.sequence link.command.address, link.command.data⟩, r, link'.command,
      t⟩ := by
  by_cases he : link.command.encrypted = true
  · refine Ends.read ?_
    rw [if_pos he]
    refine Ends.failed ?_
    rw [hlink]
    exact .unsent request _ _
  by_cases hd : link.command.data.length ≤ 255
  · have hclear : link.command.encrypted = false := by simpa using he
    exact (transact_talks link hclear hd).weaken fun _ _ _ h => .of_talks hlink h
  · refine Ends.read ?_
    rw [if_neg he]
    refine Ends.missing (if_neg hd) ?_
    rw [hlink]
    exact .unsent request _ _

theorem Request.act_serves (request : Request) (link : Link σ Channel) :
    Ends request.act { link with command := request.given } fun r t link' =>
      Call.Served ⟨request, request.packet link.channel, r, link'.command, t⟩ := by
  cases request with
  | sync command => exact Ends.change rfl (transact_serves (.sync command) _ rfl)
  | send command => exact transact_serves (.send command) _ rfl

/-- The step of a run: one call is served, and adds its trace to the history. -/
theorem Request.call_served (request : Request) (link : Link σ Channel) :
    (request.call link).1.request = request ∧ (request.call link).1.Served ∧
      (request.call link).2.line.history = link.line.history ++ (request.call link).1.trace := by
  obtain ⟨r, t, link', he, hl, hserved⟩ := request.act_serves link
  have htrace : link'.line.history = link.line.history ++ t := hl.history
  have hcall : request.call link =
      (⟨request, request.packet link.channel, r, link'.command, t⟩, link') := by
    unfold Request.call
    cases r <;> simp [he, outcome, htrace]
  rw [hcall]
  exact ⟨rfl, hserved, htrace⟩

/-- In every run of calls, whatever the host does, each call takes the first packet from its
device that it hears after a whole copy of its own packet, and a call that fails has heard none
with data. -/
theorem talk_takes_first (requests : List Request) (link : Link σ Channel) :
    (talk requests link).1.map Call.request = requests ∧
      (talk requests link).2.line.history =
        link.line.history ++ (talk requests link).1.flatMap Call.trace ∧
      ∀ c ∈ (talk requests link).1, c.Served := by
  induction requests generalizing link with
  | nil => simp [talk]
  | cons request requests ih =>
    obtain ⟨hrequest, hserved, hhistory⟩ := request.call_served link
    obtain ⟨hrequests, hhistories, hall⟩ := ih (request.call link).2
    simp only [talk, List.map_cons, List.flatMap_cons, List.forall_mem_cons]
    refine ⟨?_, ?_, hserved, hall⟩
    · rw [hrequest, hrequests]
    · rw [hhistories, hhistory, List.append_assoc]

end Lines

end Channel

/-- A wire on which the answer to a first sync packet comes only after the second one, and
the answer to the next command is a failure. -/
def Wire.tardy : Wire where
  replies := [[], Packet.framed ⟨0x80, [0xF0]⟩ ++ Packet.framed ⟨0x80, [0xF0]⟩,
    Packet.framed ⟨0x00, [0xF8]⟩]

namespace Channel

/-- The answer to a sync packet that was sent twice is taken for the answer to the next command,
although its flag is another one. -/
theorem tardy_reply_taken :
    let command : Command := { Command.new 0 with timeout := 1, retries := 2 }
    let link : Link Wire Channel := ⟨⟨Wire.tardy, [], 20⟩, .new, command⟩
    ∃ c ∈ (talk [.sync command, .send { command with data := [0x07] }] link).1, ∃ reply,
      Answered c.packet.framed c.request.command.address reply c.trace ∧ c.result = .ok .ok ∧
        c.command.response = reply.data ∧ reply.sequence ≠ c.packet.sequence := by
  intro command link
  let c : Call := (Request.call (.send { command with data := [0x07] })
    (Request.call (.sync command) link).2).1
  let n := c.trace.findIdx fun entry => entry.heard?.isSome
  have htried : c.trace.Traffic ∧ c.trace.sent = c.packet.framed ∧
      (Trace.heard (c.trace.take n) = [] ∧ Trace.sent (c.trace.drop n) = []) ∧
      Decoder.idle.listen c.request.command.address c.trace.heard =
        some (.ok ⟨0x80, [0xF0]⟩, []) ∧
      c.result = .ok .ok ∧ c.command.response = [0xF0] ∧ c.packet.sequence = false := by
    decide +kernel
  obtain ⟨htraffic, hsent, horder, hlisten, hresult, hresponse, hflag⟩ := htried
  refine ⟨c, by simp [talk, c], ⟨0x80, [0xF0]⟩, ?_, hresult, hresponse, ?_⟩
  · exact ⟨[], c.trace, rfl, by simp,
      ⟨htraffic, hsent, rfl, _, _, (List.take_append_drop n c.trace).symm, horder⟩, hlisten⟩
  · rw [hflag]
    decide

end Channel

end SspUpdate
