import Mathlib.Data.List.Induction
import SspUpdate.Proofs.Replies

/-!
# The flag alternates

Every packet of a channel carries the sequence flag, and the flag turns with
each completed exchange. So the flag of a call can be told from the calls
before it: it is set in a sync, and otherwise it says whether the number of
answered calls since the last sync is even. A call writes copies of one packet
with that flag, and one that fails leaves flag and response alone.
-/

namespace SspUpdate

namespace Channel

/-- Copies of a packet were written one after the other, all of them whole unless a call that
broke has cut the last one off. -/
def Copied {α : Type} (packet : Bytes) (r : Except Halt α) (t : Trace) : Prop :=
  ∃ n cut, t.sent = copies n packet ++ cut ∧ cut <+: packet ∧
    (cut = [] ∨ ∃ h, r = .error h ∧ t.Broken h)

/-- Nothing was written, or copies of the packet as it is encoded. -/
def Writes {α : Type} (packet : Packet) (r : Except Halt α) (t : Trace) : Prop :=
  t.sent = [] ∨ ∃ bytes, packet.encode = .ok bytes ∧ Copied bytes r t

section Copies

variable {α : Type} {packet : Bytes} {r : Except Halt α} {t u : Trace}

theorem Copied.nothing (h : t.sent = []) : Copied packet r t :=
  ⟨0, [], h, List.nil_prefix, .inl rfl⟩

theorem Copied.one (h : t.sent = packet) : Copied packet r t :=
  ⟨1, [], by simp [copies, h], List.nil_prefix, .inl rfl⟩

/-- One whole copy goes before the others. -/
theorem Copied.cons (h : Copied packet r u) (ht : t.sent = packet) : Copied packet r (t ++ u) := by
  obtain ⟨n, cut, hsent, hcut, hbroken⟩ := h
  refine ⟨n + 1, cut, ?_, hcut, hbroken.imp_right ?_⟩
  · rw [Trace.sent_append, ht, hsent]
    simp [copies, List.replicate_succ]
  · rintro ⟨h, hr, hb⟩
    exact ⟨h, hr, hb.right t⟩

/-- A packet that did not go out whole is a copy that was cut off. -/
theorem Copied.unsent {h : Halt} (hs : Sends packet (.error h) t) (n : Note) :
    Copied packet (.error h : Except Halt α) (.noted n :: t) :=
  ⟨0, t.sent, by simp [copies, Entry.sent], hs.cut, .inr ⟨h, rfl, (hs.broken h rfl).right [_]⟩⟩

end Copies

section Lines

variable {σ : Type} [SerialHost σ]

theorem exchange_copies (packet : Bytes) (attempts left : Nat) (last : Option Error)
    (link : Link σ Channel) :
    Ends (exchange packet attempts left last) link fun r t _ => Copied packet r t := by
  induction left generalizing last link with
  | zero => exact Ends.read (Ends.failed (.nothing rfl))
  | succ left ih =>
    refine Ends.read (link_noted fun l => Ends.andThen
      (onLine_ends (Q := fun r t _ => Sends packet r t) (send_sends packet l)) ?_ ?_)
    · rintro _ t link₁ hs
      have hcopy : ∀ n (v : Trace), v.sent = [] → Trace.sent (.noted n :: (t ++ v)) = packet := by
        intro n v hv
        simp [Entry.sent, hs.whole, hv]
      refine Ends.andThen (heard_ends link.command.address link.command.timeout link₁) ?_ ?_
      · rintro answer u link₂ ⟨⟨-, hu⟩, -⟩
        have hagain : ∀ (error : Option Error) (n m : Note),
            Ends (Link.note m >>= fun _ => exchange packet attempts left error) link₂
              fun r v _ => Copied packet r (.noted n :: (t ++ (u ++ v))) := by
          intro error n m
          refine link_noted fun l₃ => (ih error _).weaken fun r v _ hv => ?_
          have hsent : Trace.sent (u ++ [.noted m]) = [] := by simp [hu, Entry.sent]
          have hcopies := hv.cons (hcopy n _ hsent)
          rwa [List.cons_append, List.append_assoc, List.append_assoc] at hcopies
        rcases answer with e | _ | reply
        · dsimp only
          split
          · exact hagain (some e) _ _
          · refine Ends.failed (.one (hcopy _ _ ?_))
            rw [List.append_nil, hu]
        · exact hagain last _ _
        · refine (complete_ends reply link₂).weaken ?_
          rintro r _ _ ⟨rfl, -⟩
          refine .one (hcopy _ _ ?_)
          rw [Trace.sent_append, hu]
          rfl
      · rintro h u link₂ ⟨⟨-, hu⟩, -⟩
        exact .one (hcopy _ u hu)
    · rintro h t link₁ hs
      exact .unsent hs _

/-- What a call does with the flag `sequence` in its packets: it writes copies of one packet. Only
an answer is stored and turns the flag. -/
structure Alternates (sequence : Bool) (command : Command) (r : Except Halt Status) (t : Trace)
    (link' : Link σ Channel) : Prop where
  written : Writes ⟨seqAddr sequence command.address, command.data⟩ r t
  answered : ∀ status, r = .ok status → ∃ reply b,
    Answered (Packet.framed ⟨seqAddr sequence command.address, command.data⟩) command.address
      reply t ∧ reply.data.head? = some b ∧ status = .ofByte b ∧
      link'.command = { command with response := reply.data } ∧ link'.channel = ⟨!sequence⟩
  refused : ∀ h, r = .error h → link'.command = command ∧ link'.channel = ⟨sequence⟩

omit [SerialHost σ] in
/-- A command that does not become a packet is refused, and nothing goes out. -/
theorem Alternates.unsent (link : Link σ Channel) (h : Halt) :
    Alternates link.channel.sequence link.command (.error h) [] link where
  written := .inl rfl
  answered _ hr := by cases hr
  refused _ _ := ⟨rfl, rfl⟩

theorem transact_alternates (link : Link σ Channel) :
    Ends transact link (Alternates link.channel.sequence link.command) := by
  by_cases he : link.command.encrypted = true
  · refine Ends.read ?_
    rw [if_pos he]
    exact Ends.failed (.unsent link _)
  have hclear : link.command.encrypted = false := by simpa using he
  by_cases hd : link.command.data.length ≤ 255
  · have hencode : Packet.encode
        ⟨seqAddr link.channel.sequence link.command.address, link.command.data⟩ = .ok _ :=
      Packet.encode_eq hd
    have hcopies : Ends transact link fun r t _ => Copied (Packet.framed
        ⟨seqAddr link.channel.sequence link.command.address, link.command.data⟩) r t := by
      refine Ends.read ?_
      rw [if_neg he]
      exact Ends.result hencode (exchange_copies _ _ _ none link)
    refine ((transact_talks link hclear hd).both hcopies).weaken ?_
    rintro r t link' ⟨htalks, hcopied⟩
    refine ⟨.inr ⟨_, hencode, hcopied⟩, fun status hr => ?_, fun h hr => ?_⟩
    · obtain ⟨reply, b, hreply, hb, hstatus, hchannel, hcommand⟩ := htalks.accepted status hr
      exact ⟨reply, b, hreply, hb, hstatus, hcommand, hchannel⟩
    · obtain ⟨hchannel, hcommand⟩ := htalks.kept h hr
      exact ⟨hcommand, hchannel⟩
  · refine Ends.read ?_
    rw [if_neg he]
    exact Ends.missing (if_neg hd) (.unsent link _)

end Lines

def Request.isSync : Request → Bool
  | .sync _ => true
  | .send _ => false

/-- The flag that the packet of a request carries. -/
def Request.sequence (channel : Channel) : Request → Bool
  | .sync _ => true
  | .send _ => channel.sequence

/-- The calls since the last sync, that one included; all calls if there was none. -/
def sinceSync : List Call → List Call
  | [] => []
  | c :: rest => if rest.any (·.request.isSync) then sinceSync rest else c :: rest

/-- How many of the calls since the last sync were answered. -/
def answers (past : List Call) : Nat := (sinceSync past).countP (·.result.toBool)

/-- The flag of a call after the calls `past`: set in a sync, and otherwise set if an even number
of calls was answered since the last one. -/
def Request.flag (past : List Call) : Request → Bool
  | .sync _ => true
  | .send _ => answers past % 2 = 0

theorem sinceSync_concat (past : List Call) (c : Call) :
    sinceSync (past ++ [c]) = if c.request.isSync then [c] else sinceSync past ++ [c] := by
  induction past with
  | nil => cases h : c.request.isSync <;> simp [sinceSync]
  | cons first rest ih =>
    rw [List.cons_append, sinceSync, sinceSync, List.any_append, ih]
    cases hc : c.request.isSync with
    | true => simp [hc]
    | false => cases hr : rest.any (·.request.isSync) <;> simp [hc]

/-- The flag after one more call: turned by an answer, and as the call had it otherwise. -/
theorem answers_concat (past : List Call) (c : Call) :
    decide (answers (past ++ [c]) % 2 = 0) = (c.result.toBool ^^ c.request.flag past) := by
  rw [answers, sinceSync_concat]
  cases hrequest : c.request with
  | sync given =>
    rw [Request.isSync, if_pos rfl, List.countP_singleton, Request.flag]
    cases c.result.toBool <;> rfl
  | send given =>
    rw [Request.isSync, if_neg Bool.false_ne_true, List.countP_append, List.countP_singleton,
      ← answers, Request.flag]
    have hparity : answers past % 2 = 0 ∨ answers past % 2 = 1 := Nat.mod_two_eq_zero_or_one _
    cases c.result.toBool with
    | false => simp
    | true => rcases hparity with h | h <;> simp [Nat.add_mod, h]

section Runs

variable {σ : Type} [SerialHost σ]

omit [SerialHost σ] in
theorem Alternates.turns {sequence : Bool} {command : Command} {r : Except Halt Status} {t : Trace}
    {link' : Link σ Channel} (h : Alternates sequence command r t link') :
    link'.channel.sequence = (r.toBool ^^ sequence) := by
  cases r with
  | ok status =>
    obtain ⟨-, -, -, -, -, -, hchannel⟩ := h.answered status rfl
    rw [hchannel]
    exact (Bool.true_xor sequence).symm
  | error e =>
    rw [(h.refused e rfl).2]
    exact (Bool.false_xor sequence).symm

/-- The step: a call carries the flag of its channel, or a set one if it is a sync. -/
theorem Request.call_alternates (request : Request) (link : Link σ Channel) :
    Alternates (request.sequence link.channel) request.command (request.call link).1.result
      (request.call link).1.trace (request.call link).2 := by
  have hact : Ends request.act { link with command := request.given }
      (Alternates (request.sequence link.channel) request.command) := by
    cases request with
    | sync given => exact Ends.change rfl (transact_alternates _)
    | send given => exact transact_alternates _
  obtain ⟨r, t, link', he, hl, halternates⟩ := hact
  have htrace : link'.line.history = link.line.history ++ t := hl.history
  have hcall : request.call link =
      (⟨request, request.packet link.channel, r, link'.command, t⟩, link') := by
    unfold Request.call
    cases r <;> simp [he, outcome, htrace]
  rw [hcall]
  exact halternates

theorem talk_concat (before : List Request) (request : Request) (link : Link σ Channel) :
    talk (before ++ [request]) link =
      ((talk before link).1 ++ [(request.call (talk before link).2).1],
        (request.call (talk before link).2).2) := by
  induction before generalizing link with
  | nil => rfl
  | cons first before ih =>
    simp only [List.cons_append, talk]
    rw [ih]

/-- The run: the channel holds the flag that the calls so far have left. -/
theorem talk_sequence (line : Line σ) (command : Command) (requests : List Request) :
    (talk requests ⟨line, .new, command⟩).2.channel.sequence =
      decide (answers (talk requests ⟨line, .new, command⟩).1 % 2 = 0) := by
  induction requests using List.reverseRecOn with
  | nil => rfl
  | append_singleton before request ih =>
    rw [talk_concat, answers_concat, (request.call_alternates _).turns,
      (request.call_served _).1]
    congr 1
    cases request with
    | sync given => rfl
    | send given => exact ih

/-- In every run of calls on a new channel, whatever the host does and however the command is
changed in between, each call writes copies of its one packet, whose flag is that of the calls
before it. An answer turns the flag once and is stored; without one both stay. -/
theorem talk_alternates (line : Line σ) (command : Command) (before : List Request)
    (request : Request) :
    let run := talk before ⟨line, .new, command⟩
    let next := request.call run.2
    talk (before ++ [request]) ⟨line, .new, command⟩ = (run.1 ++ [next.1], next.2) ∧
      next.1.request = request ∧
      Alternates (request.flag run.1) request.command next.1.result next.1.trace next.2 := by
  intro run next
  have hflag : request.sequence run.2.channel = request.flag run.1 := by
    cases request with
    | sync given => rfl
    | send given => exact talk_sequence line command before
  refine ⟨talk_concat before request _, (request.call_served _).1, ?_⟩
  rw [← hflag]
  exact request.call_alternates run.2

end Runs

end Channel

end SspUpdate
