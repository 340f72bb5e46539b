import SspUpdate.Proofs.Laws

/-!
# Who holds the port

Opening the port hands out a handle, and closing it takes the handle back. A
trace is followed by whether a handle is held, and it is refused where the
port is opened while one is held or closed while none is. Every operation of a
session keeps to this, however the calls to the port are answered. So at any
time at most one handle is not closed, it is held exactly while the session
says that the port is open, and no handle is closed twice.
-/

namespace SspUpdate

namespace Entry

/-- Calls that hand out the port or take it back. -/
def IsHandover : Entry → Prop
  | .opened .. | .closed .. => True
  | _ => False

/-- Whether a handle is held after the entry; none if the entry may not come now. -/
def passes : Bool → Entry → Option Bool
  | false, .opened _ _ (.ok _) => some true
  | false, .opened _ _ (.error _) => some false
  | true, .opened .. => none
  | true, .closed .. => some false
  | false, .closed .. => none
  | held, _ => some held

/-- How often each handle was closed, newest first, after one more entry. A handle is
handed out by a successful opening, and closed by every closing that follows. -/
def tally (counts : List Nat) : Entry → List Nat
  | .opened _ _ (.ok _) => 0 :: counts
  | .closed .. => counts.modifyHead (· + 1)
  | _ => counts

theorem passes_of_not_handover {e : Entry} (h : ¬ e.IsHandover) (held : Bool) :
    e.passes held = some held := by
  cases e with
  | opened => exact absurd trivial h
  | closed => exact absurd trivial h
  | _ => cases held <;> rfl

end Entry

namespace Trace

/-- The port is neither opened nor closed. -/
def Stays (t : Trace) : Prop := ∀ e ∈ t, ¬ e.IsHandover

/-- Whether a handle is held after the trace; none if some entry came at a wrong time. -/
def hands (held : Bool) (t : Trace) : Option Bool := t.foldlM Entry.passes held

/-- How often each handle of the trace was closed, newest first. -/
def closings (t : Trace) : List Nat := t.foldl Entry.tally []

/-- Every handle was closed once, but for the newest one while it is held. -/
def Settled (held : Bool) (counts : List Nat) : Prop :=
  ∃ older, counts = (if held then 0 :: older else older) ∧ ∀ n ∈ older, n = 1

/-- The port has one owner all along, which holds it at the end or not. -/
structure Owned (t : Trace) (held : Bool) : Prop where
  /-- The port is opened only when every handle before was closed. -/
  exclusive : ∀ (before after : Trace) port baud answer,
    t = before ++ .opened port baud answer :: after → ∀ n ∈ before.closings, n = 1
  /-- The port is closed only by a handle that was not closed before. -/
  closes : ∀ (before after : Trace) port answer, t = before ++ .closed port answer :: after →
    ∃ older, before.closings = 0 :: older
  settled : Settled held t.closings

theorem Traffic.stays {t : Trace} (h : t.Traffic) : t.Stays := by
  intro e he hhand
  have hcontrol := h e he
  cases e with
  | opened => exact hcontrol trivial
  | closed => exact hcontrol trivial
  | _ => exact hhand

theorem Silent.stays {t : Trace} (h : t.Silent) : t.Stays := h.traffic.stays

theorem Stays.nil : Stays [] := by simp [Stays]

theorem Stays.append {t u : Trace} (h : t.Stays) (h' : u.Stays) : Stays (t ++ u) := by
  intro e he
  rcases List.mem_append.mp he with ht | hu
  · exact h e ht
  · exact h' e hu

theorem hands_append (held : Bool) (t u : Trace) :
    hands held (t ++ u) = (hands held t).bind fun held => hands held u := List.foldlM_append

theorem hands_trans {held held' held'' : Bool} {t u : Trace} (h : hands held t = some held')
    (h' : hands held' u = some held'') : hands held (t ++ u) = some held'' := by
  rw [hands_append, h]
  exact h'

/-- A trace that fits, fits up to each of its places and from there on. -/
theorem hands_split {held held' : Bool} {t u : Trace} (h : hands held (t ++ u) = some held') :
    ∃ mid, hands held t = some mid ∧ hands mid u = some held' := by
  rw [hands_append] at h
  exact Option.bind_eq_some_iff.mp h

theorem hands_cons {held held' : Bool} {e : Entry} {t : Trace}
    (h : hands held (e :: t) = some held') :
    ∃ mid, e.passes held = some mid ∧ hands mid t = some held' := by
  have hsteps : (e.passes held).bind (fun mid => hands mid t) = some held' := h
  exact Option.bind_eq_some_iff.mp hsteps

theorem Stays.hands {t : Trace} (h : t.Stays) (held : Bool) : t.hands held = some held := by
  induction t with
  | nil => rfl
  | cons e t ih =>
    obtain ⟨he, ht⟩ := List.forall_mem_cons.mp h
    have hstep : Trace.hands held (e :: t) = (e.passes held).bind fun held => Trace.hands held t :=
      rfl
    rw [hstep, Entry.passes_of_not_handover he]
    exact ih ht

/-- The step: an entry that fits keeps the counts settled. -/
theorem Settled.step {held held' : Bool} {counts : List Nat} {e : Entry}
    (h : Settled held counts) (he : e.passes held = some held') :
    Settled held' (e.tally counts) := by
  obtain ⟨older, rfl, hones⟩ := h
  by_cases hhand : e.IsHandover
  · cases e with
    | opened port baud answer =>
      cases held with
      | true => cases he
      | false =>
        cases answer with
        | ok _ => cases he; exact ⟨older, rfl, hones⟩
        | error e => cases he; exact ⟨older, rfl, hones⟩
    | closed port answer =>
      cases held with
      | false => cases he
      | true =>
        cases he
        refine ⟨1 :: older, rfl, ?_⟩
        simpa using hones
    | _ => exact hhand.elim
  · rw [Entry.passes_of_not_handover hhand] at he
    cases he
    have hsame : e.tally (if held then 0 :: older else older) =
        if held then 0 :: older else older := by
      cases e with
      | opened => exact absurd trivial hhand
      | closed => exact absurd trivial hhand
      | _ => rfl
    rw [hsame]
    exact ⟨older, rfl, hones⟩

/-- The run: so does every trace that fits. -/
theorem Settled.run {held held' : Bool} {counts : List Nat} {t : Trace}
    (h : Settled held counts) (ht : t.hands held = some held') :
    Settled held' (t.foldl Entry.tally counts) := by
  induction t generalizing held counts with
  | nil =>
    cases ht
    exact h
  | cons e t ih =>
    obtain ⟨mid, he, ht⟩ := hands_cons ht
    exact ih (h.step he) ht

/-- Between two handovers that fit, the port has one owner. -/
theorem Owned.of_hands {t : Trace} {held : Bool} (h : t.hands false = some held) :
    t.Owned held := by
  have hstart : Settled false [] := ⟨[], rfl, by simp⟩
  constructor
  · rintro before after port baud answer rfl
    obtain ⟨mid, hbefore, hafter⟩ := hands_split h
    obtain ⟨_, hopen, -⟩ := hands_cons hafter
    obtain ⟨older, hcounts, hones⟩ := hstart.run hbefore
    cases mid with
    | true => cases hopen
    | false =>
      have hall : before.closings = older := hcounts
      rw [hall]
      exact hones
  · rintro before after port answer rfl
    obtain ⟨mid, hbefore, hafter⟩ := hands_split h
    obtain ⟨_, hclose, -⟩ := hands_cons hafter
    obtain ⟨older, hcounts, -⟩ := hstart.run hbefore
    cases mid with
    | false => cases hclose
    | true => exact ⟨older, hcounts⟩
  · exact hstart.run h

end Trace

namespace Session

/-- The operations of a session, but for its end. -/
inductive Order where
  | openAt (baud : UInt32)
  | reopen (baud : UInt32) (ms : Nat)
  | setBaud (baud : UInt32)
  | close
  deriving DecidableEq, Repr

/-- An operation and how it ended. -/
abbrev Deed := Order × Except Halt Unit

/-- The rate that a successful opening, reopening or switch was asked for. -/
def Deed.rate? : Deed → Option UInt32
  | (.openAt baud, .ok _) | (.reopen baud _, .ok _) | (.setBaud baud, .ok _) => some baud
  | _ => none

/-- The rate of the last operation that set one. -/
def lastRate (deeds : List Deed) : UInt32 := (deeds.filterMap Deed.rate?).getLastD 0

theorem lastRate_concat (deeds : List Deed) (deed : Deed) :
    lastRate (deeds ++ [deed]) = deed.rate?.getD (lastRate deeds) := by
  cases h : deed.rate? <;> simp [lastRate, h]

section Orders

variable {σ : Type} [SerialHost σ]

def Order.act : Order → SessionM σ Unit
  | .openAt baud => Session.openAt baud
  | .reopen baud ms => Session.reopen baud ms
  | .setBaud baud => Session.setBaud baud
  | .close => Session.close

/-- The states of the session on `port` that starts on `line`, with what was done and the trace
so far. The session is opened at first and not again, and between its operations the line may be
used in any way that leaves the port with the session. -/
inductive Reaches (line : Line σ) (port : String) : List Deed → Trace → Session σ → Prop where
  | unopened : Reaches line port [] [] (closed line port)
  | ordered {deeds : List Deed} {t u : Trace} {s s' : Session σ} (order : Order)
    {r : Except Halt Unit} (before : Reaches line port deeds t s)
    (first : ∀ baud, order = .openAt baud → deeds = [])
    (act : order.act s = outcome s' r) (trace : s.line.Leads u s'.line) :
    Reaches line port (deeds ++ [(order, r)]) (t ++ u) s'
  | used {deeds : List Deed} {t u : Trace} {s : Session σ} {line' : Line σ}
    (before : Reaches line port deeds t s) (stays : u.Stays) (trace : s.line.Leads u line') :
    Reaches line port deeds (t ++ u) { s with line := line' }

theorem Opens.hands {port : String} {baud : UInt32} {r : Except Halt Unit} {t : Trace}
    (h : Opens port baud r t) : t.hands false = some r.toBool := by
  cases h <;> rfl

theorem Closes.hands {port : String} {wasOpen : Bool} {r : Except Halt Unit} {t : Trace}
    (h : Closes port wasOpen r t) : t.hands wasOpen = some false := by
  cases h <;> rfl

theorem Switches.stays {baud : UInt32} {r : Except Halt Unit} {t : Trace} (h : Switches baud r t) :
    t.Stays := by
  cases h <;> simp [Trace.Stays, Entry.IsHandover]

theorem Reopens.hands {port : String} {baud : UInt32} {wasOpen : Bool} {r : Except Halt Unit}
    {t : Trace} (h : Reopens port baud wasOpen r t) : t.hands wasOpen = some r.toBool := by
  cases h with
  | unclosed closing => exact closing.hands
  | unopened closing settled opening =>
    exact Trace.hands_trans closing.hands
      (Trace.hands_trans (settled.stays.hands false) opening.hands)
  | reopened closing settled opening =>
    have hnote : Trace.hands true [.noted (.reopened port baud)] = some true := rfl
    exact Trace.hands_trans closing.hands
      (Trace.hands_trans (settled.stays.hands false) (Trace.hands_trans opening.hands hnote))

/-- With the port closed, switching does nothing. -/
theorem setBaud_closed (baud : UInt32) {s : Session σ} (ho : s.isOpen = false) :
    Ends (setBaud baud) s fun r t s' =>
      r = .error (.failed (.portNotOpen s.port)) ∧ t = [] ∧ s' = s := by
  have hrefused : Ends requireOpen s fun r t s' =>
      r = .error (.failed (.portNotOpen s.port)) ∧ t = [] ∧ s' = s := by
    refine Ends.read ?_
    rw [ho]
    exact Ends.failed ⟨rfl, rfl, rfl⟩
  refine Ends.andThen (P := fun r t s' =>
    r = .error (.failed (.portNotOpen s.port)) ∧ t = [] ∧ s' = s) ?_ ?_ ?_
  · refine Ends.andThen hrefused ?_ ?_
    · rintro _ _ _ ⟨hr, -⟩
      cases hr
    · rintro _ _ _ ⟨⟨⟩, ht, hs⟩
      exact ⟨rfl, ht, hs⟩
  · rintro _ _ _ ⟨hr, -⟩
    cases hr
  · rintro _ _ _ ⟨⟨⟩, ht, hs⟩
    exact ⟨rfl, ht, hs⟩

omit [SerialHost σ] in
/-- An opening hands the port over if it succeeds, and the session tells so. -/
theorem opened_or_kept {s s' : Session σ} {held : Bool} {baud : UInt32} {r : Except Halt Unit}
    {t : Trace} (hhands : t.hands held = some r.toBool)
    (hok : r = .ok () → s'.isOpen = true ∧ s'.baud = baud)
    (herr : ∀ h, r = .error h → s'.isOpen = false ∧ s'.baud = s.baud) :
    t.hands held = some s'.isOpen ∧ s'.baud = if r.toBool then baud else s.baud := by
  cases r with
  | ok _ =>
    obtain ⟨hopen, hbaud⟩ := hok rfl
    rw [hopen]
    exact ⟨hhands, hbaud⟩
  | error h =>
    obtain ⟨hopen, hbaud⟩ := herr h rfl
    rw [hopen]
    exact ⟨hhands, hbaud⟩

/-- The step: an operation hands the port over as it ought to, and the session tells so. -/
theorem Order.act_ends (order : Order) (s : Session σ)
    (first : ∀ baud, order = .openAt baud → s.isOpen = false) :
    Ends order.act s fun r t s' => t.hands s.isOpen = some s'.isOpen ∧ s'.port = s.port ∧
      s'.baud = (Deed.rate? (order, r)).getD s.baud := by
  cases order with
  | openAt baud =>
    refine (openAt_ends baud s).weaken ?_
    rintro r t s' ⟨hopens, hport, hok, herr⟩
    rw [first baud rfl] at herr ⊢
    obtain ⟨hhands, hbaud⟩ := opened_or_kept hopens.hands hok herr
    refine ⟨hhands, hport, hbaud.trans ?_⟩
    cases r <;> rfl
  | reopen baud ms =>
    refine (reopen_ends baud ms s).weaken ?_
    rintro r t s' ⟨hreopens, hport, hok, herr⟩
    obtain ⟨hhands, hbaud⟩ := opened_or_kept hreopens.hands hok herr
    refine ⟨hhands, hport, hbaud.trans ?_⟩
    cases r <;> rfl
  | setBaud baud =>
    cases ho : s.isOpen with
    | false =>
      refine (setBaud_closed baud ho).weaken ?_
      rintro _ _ _ ⟨rfl, rfl, rfl⟩
      rw [ho]
      exact ⟨rfl, rfl, rfl⟩
    | true =>
      refine (setBaud_ends baud ho).weaken ?_
      rintro r t s' ⟨hswitches, hport, hopen, hok, herr⟩
      rw [hopen]
      refine ⟨hswitches.stays.hands true, hport, ?_⟩
      cases r with
      | ok _ => exact hok rfl
      | error h => exact herr h rfl
  | close =>
    refine (close_ends s).weaken ?_
    rintro r t s' ⟨hcloses, hport, hopen, hbaud⟩
    rw [hopen]
    refine ⟨hcloses.hands, hport, ?_⟩
    cases r <;> exact hbaud

/-- The end of a session gives the port back. -/
theorem finish_hands (s : Session σ) :
    ∃ last, s.line.Leads last s.finish.line ∧ last.hands s.isOpen = some false := by
  obtain ⟨r, t, s', he, hl, hcloses, -⟩ := close_ends s
  refine ⟨t, ?_, hcloses.hands⟩
  cases r <;> (simp only [finish, he, outcome]; exact hl)

/-- The run: what holds of a session after the operations `deeds`, over its whole trace. -/
structure Sound (port : String) (deeds : List Deed) (t : Trace) (s : Session σ) : Prop where
  name : s.port = port
  hands : t.hands false = some s.isOpen
  rate : s.baud = lastRate deeds
  fresh : deeds = [] → s.isOpen = false

theorem Reaches.sound {line : Line σ} {port : String} {deeds : List Deed} {t : Trace}
    {s : Session σ} (h : Reaches line port deeds t s) : Sound port deeds t s := by
  induction h with
  | unopened => exact ⟨rfl, rfl, rfl, fun _ => rfl⟩
  | @ordered deeds t u s s' order r before first act trace ih =>
    obtain ⟨hname, hhands, hrate, hfresh⟩ := ih
    obtain ⟨hhands', hname', hrate'⟩ :=
      (order.act_ends s fun baud ho => hfresh (first baud ho)).known act trace
    refine ⟨hname'.trans hname, Trace.hands_trans hhands hhands', ?_, by simp⟩
    rw [lastRate_concat, hrate', hrate]
  | used before stays trace ih =>
    obtain ⟨hname, hhands, hrate, hfresh⟩ := ih
    exact ⟨hname, Trace.hands_trans hhands (stays.hands _), hrate, hfresh⟩

theorem Reaches.leads {line : Line σ} {port : String} {deeds : List Deed} {t : Trace}
    {s : Session σ} (h : Reaches line port deeds t s) : line.Leads t s.line := by
  induction h with
  | unopened => exact .refl line
  | ordered _ _ _ _ trace ih => exact ih.trans trace
  | used _ _ trace ih => exact ih.trans trace

/-- How a session owns its port, after the operations `deeds` and over its whole trace. -/
structure OwnsPort (deeds : List Deed) (t : Trace) (s : Session σ) : Prop where
  /-- The session says that the port is open exactly while it holds a handle. -/
  owned : t.Owned s.isOpen
  rate : s.baud = lastRate deeds
  /-- With the end of the session every handle was closed once. -/
  released : ∃ last, s.line.Leads last s.finish.line ∧ (t ++ last).Owned false

theorem Reaches.ownsPort {line : Line σ} {port : String} {deeds : List Deed} {t : Trace}
    {s : Session σ} (h : Reaches line port deeds t s) : OwnsPort deeds t s := by
  obtain ⟨-, hhands, hrate, -⟩ := h.sound
  obtain ⟨last, hlast, hreleased⟩ := finish_hands s
  exact ⟨.of_hands hhands, hrate, last, hlast, .of_hands (Trace.hands_trans hhands hreleased)⟩

/-- A switch that failed has changed nothing of the session. -/
theorem setBaud_refused {s s' : Session σ} {baud : UInt32} {h : Halt}
    (hact : setBaud baud s = .error h s') :
    s'.isOpen = s.isOpen ∧ s'.baud = s.baud ∧ s'.port = s.port := by
  have hrun : setBaud baud s = outcome s' (.error h) := hact
  cases ho : s.isOpen with
  | false =>
    obtain ⟨_, -, -, -, rfl⟩ := (setBaud_closed baud ho).reached hrun
    exact ⟨ho, rfl, rfl⟩
  | true =>
    obtain ⟨_, -, -, hport, hopen, -, hkept⟩ := (setBaud_ends baud ho).reached hrun
    exact ⟨hopen, hkept h rfl, hport⟩

/-- A reopening that failed has left the session closed, at the rate it had. -/
theorem reopen_refused {s s' : Session σ} {baud : UInt32} {ms : Nat} {h : Halt}
    (hact : reopen baud ms s = .error h s') :
    s'.isOpen = false ∧ s'.baud = s.baud ∧ s'.port = s.port := by
  have hrun : reopen baud ms s = outcome s' (.error h) := hact
  obtain ⟨_, -, -, hport, -, hkept⟩ := (reopen_ends baud ms s).reached hrun
  obtain ⟨hopen, hbaud⟩ := hkept h rfl
  exact ⟨hopen, hbaud, hport⟩

end Orders

end Session

end SspUpdate
