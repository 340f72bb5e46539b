import SspUpdate.Proofs.Replies
import SspUpdate.Proofs.Resyncing

/-!
# The attempts of a resynchronisation

The wait for the device is a list of attempts. An attempt opens the port if no
handle is held, synchronises once if one is held, and drops the handle if the
port failed; after it somebody may ask to stop. Which attempts there are, and
how the wait ends, follows from what the attempts came to, for every host and
every channel.
-/

namespace SspUpdate

/-- The call to close the port failed. -/
def Entry.FailsToClose : Entry → Prop
  | .closed _ (.error _) => True
  | _ => False

instance : DecidablePred Entry.FailsToClose
  | .closed _ (.error _) => .isTrue trivial
  | .closed _ (.ok _) | .opened .. | .switched .. | .wrote .. | .flushed .. | .received ..
  | .slept .. | .stopAsked .. | .progressed .. | .noted .. => .isFalse id

/-- A synchronisation of the channel leaves in the journal what it did on the line. That holds of
every channel that is built from the calls of a line. -/
def Journals (σ κ : Type) [SerialHost σ] [CommandChannel σ κ] : Prop :=
  ∀ link : Link σ κ, Ends CommandChannel.sync link fun _ _ _ => True

namespace Resync

/-- What is asked of host and channel in one round, and what they answer. -/
structure Round where
  /-- A handle is held at the start. -/
  held : Bool
  /-- The answer to the opening of the port, if it was opened. -/
  opening : Option (Except Error Unit)
  /-- How the synchronisation ended, if there was one. -/
  sync : Option (Except Halt Status)
  /-- What the synchronisation did on the line. -/
  exchange : Trace

namespace Round

/-- A handle is held for the synchronisation. -/
def holds (a : Round) : Bool := a.held || a.opening.any Except.toBool

/-- The synchronisation ended with a failure of the port, after which the handle is closed. -/
def drops (a : Round) : Bool :=
  match a.sync with
  | some (.error (.failed e)) => e.kind ∈ [Kind.io, .serial, .port, .protocol]
  | _ => false

/-- A handle is held at the end. -/
def keeps (a : Round) : Bool := a.holds && !a.drops

def Succeeds (a : Round) : Prop := a.sync = some (.ok .ok)

/-- The synchronisation did not come to an end. -/
def Hangs (a : Round) : Prop := ∃ cut, a.sync = some (.error (.unfinished cut))

/-- A synchronisation of the channel can end with `r` after doing `t` on the line. -/
def Exchanges (σ κ : Type) [SerialHost σ] [CommandChannel σ κ] (r : Except Halt Status)
    (t : Trace) : Prop :=
  ∃ link link' : Link σ κ, CommandChannel.sync link = outcome link' r ∧
    link.line.Leads t link'.line

/-- The port is opened exactly when no handle is held, and the channel synchronises exactly once
when one is held then, and not at all when none is. -/
structure Regular (σ κ : Type) [SerialHost σ] [CommandChannel σ κ] (a : Round) : Prop where
  opens : a.opening.isSome = true ↔ a.held = false
  syncs : a.sync.isSome = true ↔ a.holds = true
  exchanges : ∀ r, a.sync = some r → Exchanges σ κ r a.exchange
  quiet : a.sync = none → a.exchange = []

/-- The entries of an opening. -/
def opened (port : String) : Option (Except Error Unit) → Trace
  | none => []
  | some (.ok _) => [.opened port commandBaud (.ok ()), .noted (.reopened port commandBaud)]
  | some (.error e) =>
    [.opened port commandBaud (.error e), .noted (.resyncFailed (e.asPortError port))]

/-- What is noted of a synchronisation. -/
def said (number : Nat) : Option (Except Halt Status) → Trace
  | none | some (.error (.unfinished _)) => []
  | some (.error (.failed e)) => [.noted (.resyncFailed e)]
  | some (.ok status) =>
    if status = .ok then [.noted (.resynced number)] else [.noted (.resyncAnswered status)]

/-- The entries after the opening. -/
def synced (port : String) (number : Nat) (a : Round) : Trace :=
  a.exchange ++ (said number a.sync ++ if a.drops then [.closed port (.ok ())] else [])

/-- All entries of a round, which is the one of this number. -/
def entries (port : String) (number : Nat) (a : Round) : Trace :=
  opened port a.opening ++ a.synced port number

/-- What the round comes to. -/
def verdict (a : Round) : Except Halt Bool :=
  match a.sync with
  | none | some (.error (.failed _)) => .ok false
  | some (.error (.unfinished cut)) => .error (.unfinished cut)
  | some (.ok status) => .ok status.isOk

/-- The errors after which the handle is closed are those whose outcome is the one of the port. -/
theorem outcome_eq_portError {e : Error} :
    e.outcome = .portError ↔ e.kind ∈ [Kind.io, .serial, .port, .protocol] := by
  rw [Error.outcome]
  cases e.kind <;> decide

theorem verdict_eq_true {a : Round} : a.verdict = .ok true ↔ a.Succeeds := by
  unfold verdict Succeeds
  split <;> simp_all [Status.isOk_iff]

theorem verdict_eq_false {a : Round} : a.verdict = .ok false ↔ ¬ a.Succeeds ∧ ¬ a.Hangs := by
  unfold verdict Succeeds Hangs
  split <;> simp_all [← Status.isOk_iff]

theorem verdict_eq_error {a : Round} {h : Halt} :
    a.verdict = .error h ↔ ∃ cut, h = .unfinished cut ∧ a.sync = some (.error h) := by
  unfold verdict
  split <;> simp_all [eq_comm]

end Round

/-- A round, and the answer to the question whether to stop, if it was asked. -/
structure Attempt extends Round where
  stop : Option Bool

namespace Attempt

/-- The entries of the question, and of the pause if the wait goes on. -/
def asked (timing : Timing) : Option Bool → Trace
  | none => []
  | some true => [.stopAsked true]
  | some false => .stopAsked false ::
      if timing.resyncLimit = none then [.slept timing.resyncInterval] else []

def entries (timing : Timing) (port : String) (number : Nat) (a : Attempt) : Trace :=
  a.toRound.entries port number ++ asked timing a.stop

/-- The entries of attempts that are numbered from `number` on. -/
def allEntries (timing : Timing) (port : String) : Nat → List Attempt → Trace
  | _, [] => []
  | number, a :: rest => a.entries timing port number ++ allEntries timing port (number + 1) rest

/-- Each attempt begins with the handle that the one before it kept. -/
def Linked : Bool → List Attempt → Prop
  | _, [] => True
  | held, a :: rest => a.held = held ∧ Linked a.keeps rest

/-- Whether a handle is held after the attempts. -/
def heldAfter (held : Bool) (attempts : List Attempt) : Bool :=
  attempts.foldl (fun _ a => a.keeps) held

end Attempt

/-- After so many rounds and these attempts another one cannot be made: the patience is used up,
or the number of the next round does not fit its word. -/
def Exhausts (patience rounds : Nat) (attempts : List Attempt) : Cut → Prop
  | .patience => attempts.length = patience
  | .overflow => attempts.length < patience ∧ nextNumber (rounds + attempts.length) = none

/-- How the attempts after so many rounds follow from each other, and the result `r` from the last
one, without a limit or with a limit of zero. -/
structure Follows (σ κ : Type) [SerialHost σ] [CommandChannel σ κ] (timing : Timing)
    (patience rounds : Nat) (held : Bool) (attempts : List Attempt) (r : Except Halt Unit) :
    Prop where
  regular : ∀ a ∈ attempts, a.Regular σ κ
  linked : Attempt.Linked held attempts
  /-- The question is asked after each attempt that failed, and not after one that succeeded. -/
  asks : ∀ a ∈ attempts, a.stop.isSome = true ↔ ¬ a.Succeeds ∧ ¬ a.Hangs
  /-- There is a further attempt only after one that failed, when nobody asked to stop and there
  is no limit. -/
  further : ∀ a ∈ attempts.dropLast, a.stop = some false ∧ timing.resyncLimit = none
  answered : r = .ok () ↔ ∃ a, attempts.getLast? = some a ∧ a.Succeeds
  timedOut : ∀ e, r = .error (.failed e) ↔ ∃ a, attempts.getLast? = some a ∧
    ((a.stop = some true ∧ e = .resyncInterrupted) ∨
      (a.stop = some false ∧ timing.resyncLimit = some 0 ∧ e = .noResync 0))
  /-- The number of every attempt fits its word. -/
  counted : ∀ n < attempts.length, (nextNumber (rounds + n)).isSome = true
  /-- The wait is cut short only when the last synchronisation did not come to an end, or when
  every attempt called for a further one and no further one could be made. -/
  waiting : ∀ cut, r = .error (.unfinished cut) ↔
    (∃ a, attempts.getLast? = some a ∧ a.sync = some (.error (.unfinished cut))) ∨
      (Exhausts patience rounds attempts cut ∧
        ∀ a ∈ attempts, a.stop = some false ∧ timing.resyncLimit = none)

namespace Follows

variable {σ κ : Type} [SerialHost σ] [CommandChannel σ κ] {timing : Timing}
  {patience rounds : Nat} {held : Bool} {a : Round} {stop : Option Bool} {rest : List Attempt}
  {r : Except Halt Unit}

/-- No attempt is made when none can be made. -/
theorem unmade {cut : Cut} (h : ∀ c, Exhausts patience rounds [] c ↔ cut = c) :
    Follows σ κ timing patience rounds held [] (.error (.unfinished cut)) := by
  constructor <;> simp [Attempt.Linked, h]

/-- An attempt that ends the wait. -/
theorem last (number : (nextNumber rounds).isSome = true) (regular : a.Regular σ κ)
    (asks : stop.isSome = true ↔ ¬ a.Succeeds ∧ ¬ a.Hangs)
    (ends : ¬ (stop = some false ∧ timing.resyncLimit = none))
    (answered : r = .ok () ↔ a.Succeeds)
    (timedOut : ∀ e, r = .error (.failed e) ↔ (stop = some true ∧ e = .resyncInterrupted) ∨
      (stop = some false ∧ timing.resyncLimit = some 0 ∧ e = .noResync 0))
    (waiting : ∀ cut, r = .error (.unfinished cut) ↔ a.sync = some (.error (.unfinished cut))) :
    Follows σ κ timing (patience + 1) rounds a.held [⟨a, stop⟩] r where
  regular := by simpa using regular
  linked := ⟨rfl, trivial⟩
  asks := by simpa using asks
  further := by simp
  answered := by simpa using answered
  timedOut := by simpa using timedOut
  counted := by simpa using number
  waiting cut := by
    have hno : ¬ (Exhausts (patience + 1) rounds [⟨a, stop⟩] cut ∧
        ∀ x ∈ [(⟨a, stop⟩ : Attempt)], x.stop = some false ∧ timing.resyncLimit = none) :=
      fun h => ends (h.2 _ (List.mem_singleton_self _))
    rw [or_iff_left hno, waiting]
    simp

/-- What is not true of the first of several is true of the last exactly when there are others,
and it is true of their last. -/
theorem last_cons {first : Attempt} {P : Attempt → Prop} (hfirst : ¬ P first) :
    (∃ x, (first :: rest).getLast? = some x ∧ P x) ↔ ∃ x, rest.getLast? = some x ∧ P x := by
  cases rest with
  | nil => simp [hfirst]
  | cons b rest => rw [List.getLast?_cons_cons]

/-- One more attempt in front uses up one round and as much patience. -/
theorem exhausts_cons {first : Attempt} {cut : Cut} :
    Exhausts (patience + 1) rounds (first :: rest) cut ↔
      Exhausts patience (rounds + 1) rest cut := by
  cases cut <;> simp [Exhausts, Nat.add_assoc, Nat.add_comm 1]

/-- An attempt that calls for a further one, and the attempts after it. -/
theorem cons (number : (nextNumber rounds).isSome = true) (regular : a.Regular σ κ)
    (failed : ¬ a.Succeeds ∧ ¬ a.Hangs) (endless : timing.resyncLimit = none)
    (h : Follows σ κ timing patience (rounds + 1) a.keeps rest r) :
    Follows σ κ timing (patience + 1) rounds a.held (⟨a, some false⟩ :: rest) r where
  regular := List.forall_mem_cons.mpr ⟨regular, h.regular⟩
  linked := ⟨rfl, h.linked⟩
  asks := List.forall_mem_cons.mpr ⟨by simp [failed], h.asks⟩
  further := by
    cases rest with
    | nil => simp
    | cons b rest =>
      rw [List.dropLast_cons_cons]
      exact List.forall_mem_cons.mpr ⟨⟨rfl, endless⟩, h.further⟩
  answered := h.answered.trans (last_cons failed.1).symm
  timedOut e := (h.timedOut e).trans (last_cons (by simp [endless])).symm
  counted
    | 0, _ => number
    | n + 1, hn => by
      have hrest := h.counted n (Nat.lt_of_succ_lt_succ hn)
      rwa [Nat.add_right_comm] at hrest
  waiting cut := by
    have hfirst : (⟨a, some false⟩ : Attempt).stop = some false ∧ timing.resyncLimit = none :=
      ⟨rfl, endless⟩
    rw [h.waiting, last_cons fun hs => failed.2 ⟨cut, hs⟩, exhausts_cons, List.forall_mem_cons,
      and_iff_right hfirst]

end Follows

section Waiting

variable {σ κ : Type} [SerialHost σ] {run : Run σ κ}

/-- Opening the closed port is one call. -/
theorem reopen_opens (ho : run.session.isOpen = false) :
    Ends (Run.onSession (Session.reopen commandBaud 0)) run fun r t run' => ∃ answer,
      r = answer.mapError (fun e => .failed (e.asPortError run.session.port)) ∧
      t = .opened run.session.port commandBaud answer ::
        (if answer.toBool then [.noted (.reopened run.session.port commandBaud)] else []) ∧
      run'.session.isOpen = answer.toBool ∧ run'.session.port = run.session.port := by
  refine Run.onSession_ends ((Session.reopen_calls commandBaud 0 run.session).weaken ?_)
  rintro r t s' ⟨hport, ⟨_, rfl, hc, -⟩ | ⟨_, _, hc, hopens, rfl, hopen, -⟩⟩
  · rw [ho] at hc
    cases hc
  · rw [ho] at hc
    cases hc
    cases hopens with
    | opened => exact ⟨.ok (), rfl, rfl, hopen, hport⟩
    | failed e => exact ⟨.error e, rfl, rfl, hopen, hport⟩

/-- The port is opened if no handle is held, and a failure to do so is only noted. -/
theorem ensureOpen_opens (run : Run σ κ) :
    Ends ensureOpen run fun r t run' => r = .ok () ∧ ∃ opening : Option (Except Error Unit),
      (opening.isSome = true ↔ run.session.isOpen = false) ∧
      t = Round.opened run.session.port opening ∧
      run'.session.isOpen = (run.session.isOpen || opening.any Except.toBool) ∧
      run'.session.port = run.session.port := by
  refine Ends.read ?_
  split
  · next ho => exact Ends.value ⟨rfl, none, by simp [ho], rfl, by simp, rfl⟩
  · next ho =>
    have hclosed : run.session.isOpen = false := Bool.eq_false_iff.mpr ho
    refine Ends.tried (reopen_opens hclosed) ?_ ?_ ?_
    · rintro _ _ run' ⟨answer | answer, hr, rfl, hopen, hport⟩
      · cases hr
      · refine Ends.value ⟨rfl, some (.ok ()), by simp [hclosed], rfl, ?_, hport⟩
        rw [hopen, hclosed]
        rfl
    · rintro _ _ run' ⟨answer | answer, hr, rfl, hopen, hport⟩
      · cases hr
        refine run_note_ends fun run₂ hrun => ⟨rfl, some (.error answer), by simp [hclosed], rfl,
          ?_, hrun.name.trans hport⟩
        rw [hrun.isOpen, hopen, hclosed]
        rfl
      · cases hr
    · rintro _ _ run' ⟨answer | answer, hr, -⟩ <;> cases hr

theorem close_closes (run : Run σ κ) :
    Ends (Run.onSession Session.close) run fun r t run' =>
      Session.Closes run.session.port run.session.isOpen r t ∧
        run'.session.port = run.session.port ∧ run'.session.isOpen = false :=
  Run.onSession_ends ((Session.close_ends run.session).weaken
    fun _ _ _ ⟨hc, hport, hclosed, _⟩ => ⟨hc, hport, hclosed⟩)

/-- With no limit or a limit of zero the answer alone decides how the question ends. -/
theorem checkLimits_asks {timing : Timing}
    (hlimit : timing.resyncLimit = none ∨ timing.resyncLimit = some 0) (start : Nat)
    (run : Run σ κ) :
    Ends (checkLimits timing start) run fun r t run' => ∃ stop, t = [.stopAsked stop] ∧
      run.OnlyLine run' ∧
      ((r = .ok () ∧ stop = false ∧ timing.resyncLimit = none) ∨
        (r = .error (.failed .resyncInterrupted) ∧ stop = true) ∨
        (r = .error (.failed (.noResync 0)) ∧ stop = false ∧ timing.resyncLimit = some 0)) := by
  refine (checkLimits_ends timing start run).weaken ?_
  rintro r t run' ⟨stop, ht, hrun, hstop | ⟨hr, hstop, hzero⟩ | ⟨hstop, limit, hsome, hr⟩⟩
  · exact ⟨stop, ht, hrun, .inr (.inl hstop)⟩
  · exact ⟨stop, ht, hrun, .inl ⟨hr, hstop, hlimit.resolve_right hzero⟩⟩
  · have hzero : timing.resyncLimit = some 0 := hlimit.resolve_left (by simp [hsome])
    obtain rfl : limit = 0 := Option.some.inj (hsome.symm.trans hzero)
    exact ⟨stop, ht, hrun, .inr (.inr ⟨hr, hstop, hzero⟩)⟩

variable [CommandChannel σ κ]

/-- No closing of the port failed. -/
def ClosesWell (t : Trace) : Prop := ∀ e ∈ t, ¬ e.FailsToClose

theorem closesWell_append {t u : Trace} : ClosesWell (t ++ u) ↔ ClosesWell t ∧ ClosesWell u :=
  List.forall_mem_append

theorem ClosesWell.not_mem {t : Trace} (h : ClosesWell t) (port : String) (e : Error) :
    Entry.closed port (.error e) ∉ t := fun he => h _ he trivial

/-- One synchronisation over the open port, and what follows from it. -/
theorem trySync_synchronises (hsync : Journals σ κ) (number : Nat)
    (ho : run.session.isOpen = true) (held : Bool) (opening : Option (Except Error Unit)) :
    Ends (trySync number) run fun r t run' => ClosesWell t →
      ∃ result exchange, Round.Exchanges σ κ result exchange ∧
        let a : Round := ⟨held, opening, some result, exchange⟩
        r = a.verdict ∧ t = a.synced run.session.port number ∧
          run'.session.isOpen = !a.drops ∧ run'.session.port = run.session.port := by
  have hlink : Ends (Run.onLink CommandChannel.sync) run fun r t run' =>
      Round.Exchanges σ κ r t ∧ run'.session.isOpen = true ∧
        run'.session.port = run.session.port := by
    obtain ⟨r, t, link', he, hl, -⟩ := hsync run.link
    exact Run.onLink_ends ho ⟨r, t, link', he, hl, ⟨run.link, link', he, hl⟩, ho, rfl⟩
  refine Ends.tried hlink ?_ ?_ ?_
  · rintro status t run₁ ⟨hexch, hopen, hport⟩
    dsimp only
    split
    · next hok =>
      refine run_noted fun run₂ hrun => Ends.value fun _ => ⟨_, t, hexch, ?_, ?_,
        hrun.isOpen.trans hopen, hrun.name.trans hport⟩
      · exact congrArg Except.ok hok.symm
      · simp [Round.synced, Round.said, Round.drops, Status.isOk_iff.mp hok]
    · next hno =>
      have hstatus : status ≠ .ok := fun h => hno (Status.isOk_iff.mpr h)
      refine run_noted fun run₂ hrun => Ends.value fun _ => ⟨_, t, hexch, ?_, ?_,
        hrun.isOpen.trans hopen, hrun.name.trans hport⟩
      · exact congrArg Except.ok (Bool.eq_false_iff.mpr hno).symm
      · simp [Round.synced, Round.said, Round.drops, hstatus]
  · rintro e t run₁ ⟨hexch, hopen, hport⟩
    refine run_noted fun run₂ hrun => ?_
    split
    · next he =>
      rw [Round.outcome_eq_portError] at he
      refine Ends.andThen (close_closes run₂) ?_ ?_
      · rintro _ u run₃ ⟨hc, hport₃, hclosed⟩
        rw [hrun.name, hport, hrun.isOpen, hopen] at hc
        cases hc
        refine Ends.value fun _ => ⟨_, t, hexch, rfl, ?_, ?_,
          hport₃.trans (hrun.name.trans hport)⟩
        · simp [Round.synced, Round.said, Round.drops, he]
        · simp [Round.drops, he, hclosed]
      · rintro h u run₃ ⟨hc, -⟩ hcloses
        rw [hrun.name, hport, hrun.isOpen, hopen] at hc
        cases hc
        next cause => exact absurd (by simp) (hcloses.not_mem run.session.port cause)
    · next he =>
      rw [Round.outcome_eq_portError] at he
      refine Ends.value fun _ => ⟨_, t, hexch, rfl, ?_, ?_, hrun.name.trans hport⟩
      · simp [Round.synced, Round.said, Round.drops, he]
      · simp [Round.drops, he, hrun.isOpen, hopen]
  · rintro cut t run₁ ⟨hexch, hopen, hport⟩ -
    refine ⟨_, t, hexch, rfl, ?_, hopen, hport⟩
    simp [Round.synced, Round.said, Round.drops]

/-- What one round does: it opens, synchronises and closes as the answers call for. -/
theorem round_regular (hsync : Journals σ κ) (number : Nat) (run : Run σ κ) :
    Ends (round number) run fun r t run' => ClosesWell t →
      ∃ a : Round, a.held = run.session.isOpen ∧ a.Regular σ κ ∧ r = a.verdict ∧
        t = a.entries run.session.port number ∧ run'.session.isOpen = a.keeps ∧
          run'.session.port = run.session.port := by
  refine Ends.andThen (ensureOpen_opens run) ?_ ?_
  · rintro _ t run₁ ⟨-, opening, hopens, rfl, hopen, hport⟩
    refine Ends.read ?_
    split
    · next ho =>
      refine (trySync_synchronises hsync number ho run.session.isOpen opening).weaken ?_
      intro r u run₂ hsynced hcloses
      rw [hport] at hsynced
      obtain ⟨result, exchange, hexch, hr, rfl, hkeeps, hport₂⟩ :=
        hsynced (closesWell_append.mp hcloses).2
      rw [ho] at hopen
      refine ⟨⟨run.session.isOpen, opening, some result, exchange⟩, rfl, ⟨hopens, ?_, ?_, nofun⟩,
        hr, rfl, ?_, hport₂⟩
      · simp [Round.holds, ← hopen]
      · rintro _ ⟨⟩
        exact hexch
      · rw [hkeeps, Round.keeps, Round.holds, ← hopen, Bool.true_and]
    · next ho =>
      rw [Bool.eq_false_iff.mpr ho] at hopen
      refine Ends.value fun _ => ⟨⟨run.session.isOpen, opening, none, []⟩, rfl,
        ⟨hopens, ?_, nofun, fun _ => rfl⟩, rfl, rfl, ?_, hport⟩
      · simp [Round.holds, ← hopen]
      · rw [Bool.eq_false_iff.mpr ho, Round.keeps, Round.holds, ← hopen, Bool.false_and]
  · rintro e t run₁ ⟨hr, -⟩
    cases hr

/-- The entries are those of attempts that follow from each other, after so many rounds. -/
def Attempted (σ κ : Type) [SerialHost σ] [CommandChannel σ κ] (timing : Timing) (port : String)
    (patience rounds : Nat) (held : Bool) (r : Except Halt Unit) (t : Trace) (holds : Bool) :
    Prop :=
  ∃ attempts, t = Attempt.allEntries timing port (rounds + 1) attempts ∧
    Follows σ κ timing patience rounds held attempts r ∧ holds = Attempt.heldAfter held attempts

section Steps

variable {timing : Timing} {port : String} {patience rounds : Nat} {a : Round}

/-- The next number is one more, and fits its word. -/
theorem eq_of_nextNumber {number : Nat} (h : nextNumber rounds = some number) :
    number = rounds + 1 := by
  unfold nextNumber at h
  split at h
  · exact (Option.some.inj h).symm
  · cases h

/-- A round after which the wait is over. -/
theorem Attempted.last (hnumber : (nextNumber rounds).isSome = true) (regular : a.Regular σ κ)
    {r : Except Halt Unit}
    (hr : (r = .ok () ∧ a.verdict = .ok true) ∨ ∃ h, r = .error h ∧ a.verdict = .error h) :
    Attempted σ κ timing port (patience + 1) rounds a.held r (a.entries port (rounds + 1))
      a.keeps := by
  refine ⟨[⟨a, none⟩], by simp [Attempt.allEntries, Attempt.entries, Attempt.asked], ?_, rfl⟩
  obtain ⟨rfl, hv⟩ | ⟨h, rfl, hv⟩ := hr
  · have hs : a.sync = some (.ok .ok) := Round.verdict_eq_true.mp hv
    refine .last hnumber regular ?_ (by simp) ?_ ?_ ?_ <;>
      simp [Round.Succeeds, Round.Hangs, hs]
  · obtain ⟨cut, rfl, hs⟩ := Round.verdict_eq_error.mp hv
    refine .last hnumber regular ?_ (by simp) ?_ ?_ ?_ <;>
      simp [Round.Succeeds, Round.Hangs, hs]

/-- A failed round, after which the question whether to stop ends the wait. -/
theorem Attempted.stopped (hnumber : (nextNumber rounds).isSome = true)
    (regular : a.Regular σ κ) (hv : a.verdict = .ok false) {stop : Bool} {e : Error} (he : (stop = true ∧ e = .resyncInterrupted) ∨
      (stop = false ∧ timing.resyncLimit = some 0 ∧ e = .noResync 0)) :
    Attempted σ κ timing port (patience + 1) rounds a.held (.error (.failed e))
      (a.entries port (rounds + 1) ++ [.stopAsked stop]) a.keeps := by
  have hfailed := Round.verdict_eq_false.mp hv
  have hcomplete : ∀ cut, a.sync ≠ some (.error (.unfinished cut)) :=
    fun cut hs => hfailed.2 ⟨cut, hs⟩
  obtain ⟨rfl, rfl⟩ | ⟨rfl, hzero, rfl⟩ := he
  · refine ⟨[⟨a, some true⟩], by simp [Attempt.allEntries, Attempt.entries, Attempt.asked],
      .last hnumber regular ?_ ?_ ?_ ?_ ?_, rfl⟩ <;> simp [hfailed, hcomplete, eq_comm]
  · refine ⟨[⟨a, some false⟩], ?_, .last hnumber regular ?_ ?_ ?_ ?_ ?_, rfl⟩ <;>
      simp [Attempt.allEntries, Attempt.entries, Attempt.asked, hfailed, hcomplete, hzero, eq_comm]

/-- A failed round in front of the attempts that come after it. -/
theorem Attempted.further (hnumber : (nextNumber rounds).isSome = true)
    (regular : a.Regular σ κ) (hv : a.verdict = .ok false) (hnone : timing.resyncLimit = none)
    {r : Except Halt Unit} {t : Trace} {holds : Bool}
    (h : Attempted σ κ timing port patience (rounds + 1) a.keeps r t holds) :
    Attempted σ κ timing port (patience + 1) rounds a.held r
      (a.entries port (rounds + 1) ++
        ([.stopAsked false] ++ ([.slept timing.resyncInterval] ++ t))) holds := by
  obtain ⟨attempts, rfl, hfollows, hholds⟩ := h
  refine ⟨⟨a, some false⟩ :: attempts, ?_,
    .cons hnumber regular (Round.verdict_eq_false.mp hv) hnone hfollows, hholds⟩
  simp [Attempt.allEntries, Attempt.entries, Attempt.asked, hnone]

end Steps

/-- The rounds of a wait are attempts that follow from each other: the handle is all that one round
leaves to the next. -/
theorem loop_attempts (hsync : Journals σ κ) {timing : Timing}
    (hlimit : timing.resyncLimit = none ∨ timing.resyncLimit = some 0)
    (start patience rounds : Nat) (run : Run σ κ) :
    Ends (loop timing start patience rounds) run fun r t run' =>
      ClosesWell t → Attempted σ κ timing run.session.port patience rounds
        run.session.isOpen r t run'.session.isOpen := by
  induction patience generalizing rounds run with
  | zero =>
    refine Ends.thrown fun _ => ⟨[], rfl, .unmade fun cut => ?_, rfl⟩
    cases cut <;> simp [Exhausts]
  | succ patience ih =>
    rcases hnumber : nextNumber rounds with _ | number
    · refine Ends.overflows hnumber fun _ => ⟨[], rfl, .unmade fun cut => ?_, rfl⟩
      cases cut <;> simp [Exhausts, hnumber]
    obtain rfl := eq_of_nextNumber hnumber
    have hcounts : (nextNumber rounds).isSome = true := by rw [hnumber]; rfl
    refine Ends.fits hnumber (Ends.andThen (round_regular hsync (rounds + 1) run) ?_ ?_)
    · rintro (_ | _) t run₁ hround
      · refine Ends.andThen (checkLimits_asks hlimit start run₁) ?_ ?_
        · rintro _ _ run₂ ⟨stop, rfl, hrun, ⟨-, rfl, hnone⟩ | ⟨⟨⟩, -⟩ | ⟨⟨⟩, -⟩⟩
          refine run_slept fun run₃ hrun₃ => ?_
          refine (ih (rounds + 1) run₃).weaken fun r u run₄ hrest hcloses => ?_
          simp only [closesWell_append] at hcloses
          obtain ⟨a, hheld, regular, hv, rfl, hkeeps, hport⟩ := hround hcloses.1
          rw [hrun₃.name, hrun.name, hport, hrun₃.isOpen, hrun.isOpen, hkeeps] at hrest
          exact hheld ▸ .further hcounts regular hv.symm hnone
            (hrest (List.forall_mem_cons.mp hcloses.2.2).2)
        · rintro e _ run₂ ⟨stop, rfl, hrun, hstop⟩ hcloses
          obtain ⟨a, hheld, regular, hv, rfl, hkeeps, -⟩ := hround (closesWell_append.mp hcloses).1
          rw [hrun.isOpen, hkeeps, ← hheld]
          obtain ⟨⟨⟩, -⟩ | ⟨⟨⟩, hstop⟩ | ⟨⟨⟩, hstop, hzero⟩ := hstop
          · exact .stopped hcounts regular hv.symm (.inl ⟨hstop, rfl⟩)
          · exact .stopped hcounts regular hv.symm (.inr ⟨hstop, hzero, rfl⟩)
      · refine Ends.value fun hcloses => ?_
        rw [List.append_nil] at hcloses ⊢
        obtain ⟨a, hheld, regular, hv, rfl, hkeeps, -⟩ := hround hcloses
        rw [hkeeps, ← hheld]
        exact .last hcounts regular (.inl ⟨rfl, hv.symm⟩)
    · rintro h t run₁ hround hcloses
      obtain ⟨a, hheld, regular, hv, rfl, hkeeps, -⟩ := hround hcloses
      rw [hkeeps, ← hheld]
      exact .last hcounts regular (.inr ⟨h, rfl, hv.symm⟩)

/-- For every host and channel, with closes that succeed and without a limit or with a limit of
zero: the port is closed, and then there are attempts that follow from each other. -/
theorem run_attempts (hsync : Journals σ κ) {timing : Timing}
    (hlimit : timing.resyncLimit = none ∨ timing.resyncLimit = some 0) (run : Run σ κ) :
    Ends (Resync.run timing) run fun r t run' => ClosesWell t →
      ∃ attempts,
        t = (if run.session.isOpen then [.closed run.session.port (.ok ())] else []) ++
          Attempt.allEntries timing run.session.port 1 attempts ∧
        Follows σ κ timing run.session.line.patience 0 false attempts r ∧
        run'.session.isOpen = Attempt.heldAfter false attempts := by
  refine Ends.andThen (close_closes run).patient ?_ ?_
  · rintro _ t run₁ ⟨⟨hc, hport, hclosed⟩, hpatience⟩
    refine run_clocked fun now => Ends.read ((loop_attempts hsync hlimit now _ 0 run₁).weaken ?_)
    intro r u run₂ hloop hcloses
    rw [hport, hclosed] at hloop
    obtain ⟨attempts, rfl, hfollows, hholds⟩ := hloop (closesWell_append.mp hcloses).2
    refine ⟨attempts, ?_, ?_, hholds⟩
    · generalize run.session.isOpen = wasOpen at hc ⊢
      cases hc <;> rfl
    · exact hpatience ▸ hfollows
  · rintro h t run₁ ⟨⟨hc, -⟩, -⟩ hcloses
    generalize run.session.isOpen = wasOpen at hc
    cases hc
    next e => exact absurd (List.mem_singleton_self _) (hcloses.not_mem run.session.port e)

end Waiting

end Resync

theorem Channel.journals (σ : Type) [SerialHost σ] : Journals σ Channel := fun link =>
  (Request.act_serves (.sync link.command) link).weaken fun _ _ _ _ => trivial

/-- A wire whose port cannot be opened at first, is lost in the next attempt, and is open but
silent in the one after that. -/
def Wire.restless : Wire where
  replies := [[], Packet.framed ⟨0x80, [0xF0]⟩]
  faults := [⟨.opening, 0, 1, .error (.serial "no such port")⟩,
    ⟨.write, 0, 1, .io ⟨.brokenPipe, "gone"⟩⟩]

theorem Resync.run_attempts_restless :
    let timing : Timing := { resyncLimit := none }
    let command : Command := { Command.new 0 with timeout := 1, retries := 1 }
    let run : Run Wire Channel := ⟨⟨⟨Wire.restless, [], 20⟩, "COM1", true, 9600⟩, .new, command⟩
    timing.resyncLimit = none ∧ ∃ attempts,
      (ended (Resync.run timing) run).2.session.line.history =
        .closed "COM1" (.ok ()) :: Attempt.allEntries timing "COM1" 1 attempts ∧
      Follows Wire Channel timing 20 0 false attempts (.ok ()) := by
  intro timing command run
  have hok : (ended (Resync.run timing) run).1 = .ok () := by decide +kernel
  have hwell : ClosesWell (ended (Resync.run timing) run).2.session.line.history := by
    unfold ClosesWell
    decide +kernel
  have hlimit : timing.resyncLimit = none ∨ timing.resyncLimit = some 0 := .inl rfl
  obtain ⟨t, hl, hq⟩ := (run_attempts (Channel.journals Wire) hlimit run).end_reached
  have ht : (ended (Resync.run timing) run).2.session.line.history = t := hl.history
  rw [ht] at hwell
  obtain ⟨attempts, hentries, hfollows, -⟩ := hq hwell
  rw [hok] at hfollows
  exact ⟨rfl, attempts, ht.trans hentries, hfollows⟩

end SspUpdate
