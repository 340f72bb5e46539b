import SspUpdate.Proofs.LineCalls

/-!
# Turns of a bare transfer

In a transfer the two sides take turns: the host sends some bytes and the
device answers with one byte. A stage of an update is a list of turns, and
`Plays` says how far a trace got in it: through all turns, or up to the first
one that was refused, met silence, or was broken off by the port. Nothing of a
later turn goes out before the answer to an earlier one was right.
-/

namespace SspUpdate

/-- Bytes that go out, the byte that has to come back within `limit`, and what
another byte is reported as. -/
structure Turn where
  data : Bytes
  reply : UInt8
  wrong : UInt8 → Error
  limit : Nat

namespace Turn

/-- What an answer other than the right one is reported as. -/
def failure (u : Turn) : Option UInt8 → Error
  | some b => u.wrong b
  | none => .noByteWithin u.limit

/-- How waiting for the answer can go. -/
inductive Answers (u : Turn) : Except Halt Unit → Trace → Prop where
  | right {t : Trace} (h : t.Silent) :
    Answers u (.ok ()) (.received u.limit (.ok (some u.reply)) :: t)
  | wrong (b : UInt8) (h : b ≠ u.reply) :
    Answers u (.error (.failed (u.wrong b))) [.received u.limit (.ok (some b))]
  | silence : Answers u (.error (.failed (.noByteWithin u.limit))) [.received u.limit (.ok none)]
  | broken (h : Halt) : Answers u (.error h) [.received u.limit (.error h)]

/-- Nothing goes out while the answer is awaited. -/
theorem Answers.sent {u : Turn} {r : Except Halt Unit} {t : Trace} (h : u.Answers r t) :
    t.sent = [] := by
  cases h with
  | right ht => simp [Entry.sent, ht.sent]
  | wrong => rfl
  | silence => rfl
  | broken => rfl

theorem Answers.traffic {u : Turn} {r : Except Halt Unit} {t : Trace} (h : u.Answers r t) :
    t.Traffic := by
  cases h with
  | right ht => simp [Entry.IsControl, ht.traffic]
  | wrong => simp [Entry.IsControl]
  | silence => simp [Entry.IsControl]
  | broken => simp [Entry.IsControl]

end Turn

/-- How far a trace got in a list of turns. -/
inductive Plays : List Turn → Except Halt Unit → Trace → Prop where
  | finished {t : Trace} (h : t.Silent) : Plays [] (.ok ()) t
  | turn {u : Turn} {us : List Turn} {r : Except Halt Unit} {t t' t'' : Trace}
    (sent : Sends u.data (.ok ()) t) (answered : u.Answers (.ok ()) t') (rest : Plays us r t'') :
    Plays (u :: us) r (t ++ (t' ++ t''))
  | unanswered {u : Turn} {us : List Turn} {h : Halt} {t t' : Trace}
    (sent : Sends u.data (.ok ()) t) (answered : u.Answers (.error h) t') :
    Plays (u :: us) (.error h) (t ++ t')
  | unsent {u : Turn} {us : List Turn} {h : Halt} {t : Trace}
    (sent : Sends u.data (.error h) t) : Plays (u :: us) (.error h) t

namespace Plays

theorem silence {us : List Turn} {r : Except Halt Unit} {t u : Trace} (ht : t.Silent)
    (h : Plays us r u) : Plays us r (t ++ u) := by
  cases h with
  | finished h => exact .finished (ht.append h)
  | turn sent answered rest =>
    rw [← List.append_assoc]
    exact .turn (sent.after_silence ht) answered rest
  | unanswered sent answered =>
    rw [← List.append_assoc]
    exact .unanswered (sent.after_silence ht) answered
  | unsent sent => exact .unsent (sent.after_silence ht)

/-- A list of turns that was finished is followed by the next list. -/
theorem append {us vs : List Turn} {r : Except Halt Unit} {t u : Trace}
    (h : Plays us (.ok ()) t) (h' : Plays vs r u) : Plays (us ++ vs) r (t ++ u) := by
  generalize ho : (Except.ok () : Except Halt Unit) = o at h
  induction h with
  | finished ht => exact h'.silence ht
  | turn sent answered _ ih =>
    rw [List.append_assoc, List.append_assoc]
    exact .turn sent answered (ih ho)
  | unanswered => cases ho
  | unsent => cases ho

/-- A list of turns that was broken off is not followed by another one. -/
theorem extend {us : List Turn} {e : Halt} {t : Trace} (h : Plays us (.error e) t)
    (vs : List Turn) : Plays (us ++ vs) (.error e) t := by
  generalize ho : (Except.error e : Except Halt Unit) = o at h
  induction h with
  | finished => cases ho
  | turn sent answered _ ih => exact .turn sent answered (ih ho)
  | unanswered sent answered => exact .unanswered sent answered
  | unsent sent => exact .unsent sent

theorem traffic {us : List Turn} {r : Except Halt Unit} {t : Trace} (h : Plays us r t) :
    t.Traffic := by
  induction h with
  | finished h => exact h.traffic
  | turn sent answered _ ih =>
    simp only [Trace.traffic_append]
    exact ⟨sent.traffic, answered.traffic, ih⟩
  | unanswered sent answered =>
    simp only [Trace.traffic_append]
    exact ⟨sent.traffic, answered.traffic⟩
  | unsent sent => exact sent.traffic

/-- Finished turns sent all their data, and heard exactly the answers they wait for. -/
theorem whole {us : List Turn} {t : Trace} (h : Plays us (.ok ()) t) :
    t.sent = us.flatMap Turn.data ∧ t.heard = us.map Turn.reply := by
  generalize ho : (Except.ok () : Except Halt Unit) = o at h
  induction h with
  | finished h => exact ⟨h.sent, h.heard⟩
  | turn sent answered _ ih =>
    obtain ⟨hsent, hheard⟩ := ih ho
    cases answered with
    | right ha =>
      simp [hsent, hheard, sent.whole, sent.heard, ha.sent, ha.heard, Entry.sent, Entry.heard?]
  | unanswered => cases ho
  | unsent => cases ho

/-- Turns that failed have met a wrong answer or silence in one of them, after all
before it were finished, or the port itself failed. -/
theorem refused {us : List Turn} {e : Error} {t : Trace} (h : Plays us (.error (.failed e)) t) :
    (∃ k u answer, us[k]? = some u ∧ e = u.failure answer ∧
      t.sent = (us.take (k + 1)).flatMap Turn.data ∧
      t.heard = (us.take k).map Turn.reply ++ answer.toList) ∨
    (∃ x ∈ t, x.Breaks (.failed e) ∨ ∃ ms, x = .received ms (.error (.failed e))) := by
  generalize ho : (Except.error (.failed e) : Except Halt Unit) = o at h
  induction h with
  | finished => cases ho
  | @turn u us r t t' t'' sent answered rest ih =>
    obtain ⟨k, v, answer, hv, he, hsent, hheard⟩ | ⟨x, hx, hb⟩ := ih ho
    · refine .inl ⟨k + 1, v, answer, hv, he, ?_, ?_⟩
      · simp [sent.whole, answered.sent, hsent]
      · cases answered with
        | right ht => simp [sent.heard, ht.heard, hheard, Entry.heard?]
    · exact .inr ⟨x, List.mem_append_right _ (List.mem_append_right _ hx), hb⟩
  | @unanswered u us h t t' sent answered =>
    cases ho
    have hsent : Trace.sent (t ++ t') = ((u :: us).take 1).flatMap Turn.data := by
      simp [sent.whole, answered.sent]
    cases answered with
    | wrong b hb =>
      refine .inl ⟨0, u, some b, rfl, rfl, hsent, ?_⟩
      simp [sent.heard, Entry.heard?]
    | silence =>
      refine .inl ⟨0, u, none, rfl, rfl, hsent, ?_⟩
      simp [sent.heard, Entry.heard?]
    | broken h => exact .inr ⟨_, List.mem_append_right _ List.mem_cons_self, .inr ⟨_, rfl⟩⟩
  | unsent sent =>
    cases ho
    obtain ⟨x, hx, hb⟩ := sent.broken _ rfl
    exact .inr ⟨x, hx, .inl hb⟩

end Plays

end SspUpdate
