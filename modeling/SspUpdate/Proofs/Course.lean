import SspUpdate.Proofs.Resyncing
import SspUpdate.Proofs.Stages
import SspUpdate.Update

/-!
# The course of an update

An update goes through ten phases, one after the other, and ends at the first
one that fails. Between them it only takes notes. `Runs` says how far a trace
got in a list of phases, and `update_runs` that every update, on every host
and over every channel whose conversation is known, runs through its course.
-/

namespace SspUpdate

/-- How one part of an update may end, over which trace. -/
abbrev Phase := Except Halt Unit → Trace → Prop

/-- How far a trace got in a list of phases, with silence in between. -/
inductive Runs : List Phase → Except Halt Unit → Trace → Prop where
  | done {t : Trace} (h : t.Silent) : Runs [] (.ok ()) t
  | next {p : Phase} {ps : List Phase} {r : Except Halt Unit} {pause t u : Trace}
    (silent : pause.Silent) (head : p (.ok ()) t) (rest : Runs ps r u) :
    Runs (p :: ps) r (pause ++ (t ++ u))
  | stop {p : Phase} {ps : List Phase} {h : Halt} {pause t : Trace} (silent : pause.Silent)
    (head : p (.error h) t) : Runs (p :: ps) (.error h) (pause ++ t)

namespace Runs

theorem silence {ps : List Phase} {r : Except Halt Unit} {t u : Trace} (ht : t.Silent)
    (h : Runs ps r u) : Runs ps r (t ++ u) := by
  cases h with
  | done h => exact .done (ht.append h)
  | next silent head rest =>
    rw [← List.append_assoc]
    exact .next (ht.append silent) head rest
  | stop silent head =>
    rw [← List.append_assoc]
    exact .stop (ht.append silent) head

theorem one {p : Phase} {r : Except Halt Unit} {t : Trace} (h : p r t) : Runs [p] r t := by
  cases r with
  | ok _ => simpa using Runs.next .nil h (.done .nil)
  | error e => simpa using Runs.stop .nil h

theorem append {ps qs : List Phase} {r : Except Halt Unit} {t u : Trace}
    (h : Runs ps (.ok ()) t) (h' : Runs qs r u) : Runs (ps ++ qs) r (t ++ u) := by
  generalize ho : (Except.ok () : Except Halt Unit) = o at h
  induction h with
  | done h => exact h'.silence h
  | next silent head _ ih =>
    rw [List.append_assoc, List.append_assoc]
    exact .next silent head (ih ho)
  | stop => cases ho

theorem extend {ps : List Phase} {e : Halt} {t : Trace} (h : Runs ps (.error e) t)
    (qs : List Phase) : Runs (ps ++ qs) (.error e) t := by
  generalize ho : (Except.error e : Except Halt Unit) = o at h
  induction h with
  | done => cases ho
  | next silent head _ ih => exact .next silent head (ih ho)
  | stop silent head => exact .stop silent head

/-- A run that went through has gone through its first phase. -/
theorem first {p : Phase} {ps : List Phase} {t : Trace} (h : Runs (p :: ps) (.ok ()) t) :
    ∃ pause u rest, t = pause ++ (u ++ rest) ∧ pause.Silent ∧ p (.ok ()) u ∧
      Runs ps (.ok ()) rest := by
  cases h with
  | next silent head rest => exact ⟨_, _, _, rfl, silent, head, rest⟩

/-- A run through two lists has failed in the first one, or gone through it. -/
theorem split {ps qs : List Phase} {r : Except Halt Unit} {t : Trace} (h : Runs (ps ++ qs) r t) :
    (∃ e, r = .error e ∧ Runs ps r t) ∨
      ∃ u v, t = u ++ v ∧ Runs ps (.ok ()) u ∧ Runs qs r v := by
  induction ps generalizing t with
  | nil => exact .inr ⟨[], t, rfl, .done .nil, h⟩
  | cons p ps ih =>
    cases h with
    | @next _ _ _ pause u rest silent head h =>
      obtain ⟨e, he, h⟩ | ⟨v, w, rfl, hv, hw⟩ := ih h
      · exact .inl ⟨e, he, .next silent head h⟩
      · exact .inr ⟨pause ++ (u ++ v), w, by simp, .next silent head hv, hw⟩
    | stop silent head => exact .inl ⟨_, rfl, .stop silent head⟩

/-- A run that failed has failed in its first phase, or behind it. -/
theorem failure {p : Phase} {ps : List Phase} {e : Halt} {t : Trace}
    (h : Runs (p :: ps) (.error e) t) :
    (∃ pause u, t = pause ++ u ∧ pause.Silent ∧ p (.error e) u) ∨
      ∃ pause u rest, t = pause ++ (u ++ rest) ∧ pause.Silent ∧ p (.ok ()) u ∧
        Runs ps (.error e) rest := by
  cases h with
  | next silent head rest => exact .inr ⟨_, _, _, rfl, silent, head, rest⟩
  | stop silent head => exact .inl ⟨_, _, rfl, silent, head⟩

end Runs

/-- An action that runs through phases; after the last one `I` holds. -/
def Follows {s α : Type} (ps : List Phase) (I : α → s → Prop) (r : Except Halt α) (t : Trace)
    (st : s) : Prop :=
  Runs ps (Done r) t ∧ ∀ a, r = .ok a → I a st

namespace Follows

variable {s σ α β : Type} [SerialHost σ] [HasLine s σ] {st : s} {p q : List Phase}

/-- Phases after phases; the patience of the line is as before. -/
theorem andThen {act : EStateM Halt s α} {f : α → EStateM Halt s β} {I : α → s → Prop}
    {J : β → s → Prop} (h : Ends act st (Follows p I))
    (hf : ∀ a st', I a st' → (HasLine.line st').patience = (HasLine.line st).patience →
      Ends (f a) st' (Follows q J)) : Ends (act >>= f) st (Follows (p ++ q) J) := by
  refine Ends.andThen h.patient ?_ ?_
  · rintro a t st' ⟨⟨hr, hi⟩, hpatience⟩
    refine (hf a st' (hi a rfl) hpatience).weaken ?_
    rintro r u st'' ⟨hu, hj⟩
    exact ⟨hr.append hu, hj⟩
  · rintro e t st' ⟨⟨hr, -⟩, -⟩
    exact ⟨hr.extend q, fun b hb => by cases hb⟩

/-- An action that is one phase. -/
theorem one {act : EStateM Halt s Unit} {p : Phase} {I : s → Prop}
    (h : Ends act st fun r t st' => p r t ∧ (r = .ok () → I st')) :
    Ends act st (Follows [p] fun _ => I) := by
  refine h.weaken ?_
  rintro r t st' ⟨hp, hi⟩
  refine ⟨?_, fun _ => hi⟩
  cases r <;> exact .one hp

theorem value {a : α} {I : α → s → Prop} (h : I a st) : Ends (pure a) st (Follows [] I) :=
  Ends.value ⟨.done .nil, fun b hb => by cases hb; exact h⟩

end Follows

/-- The like for phases that depend on a block size, for some block size that fits a word. -/
def FollowsSized {s α : Type} (p : Nat → List Phase) (I : Nat → α → s → Prop)
    (r : Except Halt α) (t : Trace) (st : s) : Prop :=
  ∃ size, 0 < size ∧ size < 65536 ∧ Follows (p size) (I size) r t st

namespace FollowsSized

variable {s σ α β : Type} [SerialHost σ] [HasLine s σ] {st : s}

theorem afterPhases {act : EStateM Halt s α} {f : α → EStateM Halt s β} {p : List Phase}
    {q : Nat → List Phase} {I : α → s → Prop} {J : Nat → β → s → Prop}
    (h : Ends act st (Follows p I))
    (hf : ∀ a st', I a st' → (HasLine.line st').patience = (HasLine.line st).patience →
      Ends (f a) st' (FollowsSized q J)) :
    Ends (act >>= f) st (FollowsSized (fun size => p ++ q size) J) := by
  refine Ends.andThen h.patient ?_ ?_
  · rintro a t st' ⟨⟨hr, hi⟩, hpatience⟩
    refine (hf a st' (hi a rfl) hpatience).weaken ?_
    rintro r u st'' ⟨size, hpos, hword, hu, hj⟩
    exact ⟨size, hpos, hword, hr.append hu, hj⟩
  · rintro e t st' ⟨⟨hr, -⟩, -⟩
    exact ⟨1, by decide, by decide, hr.extend (q 1), fun b hb => by cases hb⟩

theorem andThen {act : EStateM Halt s α} {f : α → EStateM Halt s β} {p q : Nat → List Phase}
    {I : Nat → α → s → Prop} {J : Nat → β → s → Prop} (h : Ends act st (FollowsSized p I))
    (hf : ∀ size a st', 0 < size → size < 65536 → I size a st' →
      (HasLine.line st').patience = (HasLine.line st).patience →
      Ends (f a) st' (Follows (q size) (J size))) :
    Ends (act >>= f) st (FollowsSized (fun size => p size ++ q size) J) := by
  refine Ends.andThen h.patient ?_ ?_
  · rintro a t st' ⟨⟨size, hpos, hword, hr, hi⟩, hpatience⟩
    refine (hf size a st' hpos hword (hi a rfl) hpatience).weaken ?_
    rintro r u st'' ⟨hu, hj⟩
    exact ⟨size, hpos, hword, hr.append hu, hj⟩
  · rintro e t st' ⟨⟨size, hpos, hword, hr, -⟩, -⟩
    exact ⟨size, hpos, hword, hr.extend (q size), fun b hb => by cases hb⟩

end FollowsSized

namespace Update

/-- The first synchronisation, with what its failure is reported as. -/
inductive FindsValidator (sync : Except Halt Status → Trace → Prop) :
    Except Halt Unit → Trace → Prop where
  | found {t : Trace} (h : sync (.ok .ok) t) :
    FindsValidator sync (.ok ()) (t ++ [.noted .validatorFound])
  | refused {t : Trace} {status : Status} (h : sync (.ok status) t) (hs : status ≠ .ok) :
    FindsValidator sync (.error (.failed (.syncAnswered status))) t
  | unheard {t : Trace} {e : Error} (h : sync (.error (.failed e)) t) :
    FindsValidator sync (.error (.failed (.syncFailed e))) t
  | unfinished {t : Trace} {cut : Cut} (h : sync (.error (.unfinished cut)) t) :
    FindsValidator sync (.error (.unfinished cut)) t

/-- Where an update stands between two phases: the port is open. -/
structure Stands {σ κ : Type} (port : String) (known : κ → Command → Prop) (run : Run σ κ) :
    Prop where
  name : run.session.port = port
  isOpen : run.session.isOpen = true
  known : known run.channel run.command

theorem Stands.kept {σ κ : Type} {port : String} {known : κ → Command → Prop} {run run' : Run σ κ}
    (h : Stands port known run) (hrun : run.OnlyLine run') : Stands port known run' := by
  refine ⟨hrun.name.trans h.name, hrun.isOpen.trans h.isOpen, ?_⟩
  rw [hrun.channel, hrun.command]
  exact h.known

/-- A note on the link is no phase. -/
theorem link_note_follows {σ κ α : Type} [SerialHost σ] {n : Note} {k : Unit → LinkM σ κ α}
    {link : Link σ κ} {ps : List Phase} {I : α → Link σ κ → Prop}
    (h : ∀ l, Ends (k ()) { link with line := l } (Follows ps I)) :
    Ends (Link.note n >>= k) link (Follows ps I) :=
  Channel.link_noted fun l => (h l).weaken fun _ _ _ h => ⟨h.1.silence (.note n), h.2⟩

/-- A note is no phase. -/
theorem note_follows {σ κ α : Type} [SerialHost σ] {n : Note} {k : Unit → RunM σ κ α}
    {run : Run σ κ} {ps : List Phase} {I : α → Run σ κ → Prop}
    (h : ∀ run', run.OnlyLine run' → Ends (k ()) run' (Follows ps I)) :
    Ends (Run.note n >>= k) run (Follows ps I) :=
  run_noted fun run' hrun => (h run' hrun).weaken fun _ _ _ h => ⟨h.1.silence (.note n), h.2⟩

theorem note_followsSized {σ κ α : Type} [SerialHost σ] {n : Note} {k : Unit → RunM σ κ α}
    {run : Run σ κ} {ps : Nat → List Phase} {I : Nat → α → Run σ κ → Prop}
    (h : ∀ run', run.OnlyLine run' → Ends (k ()) run' (FollowsSized ps I)) :
    Ends (Run.note n >>= k) run (FollowsSized ps I) := by
  refine run_noted fun run' hrun => (h run' hrun).weaken ?_
  rintro r t run'' ⟨size, hpos, hword, hr, hi⟩
  exact ⟨size, hpos, hword, hr.silence (.note n), hi⟩

section Course

variable {σ κ : Type} [SerialHost σ] [CommandChannel σ κ] {image : Image}

/-- Asking for the block size, where the answer is `size`. -/
def AsksSize (c : Conversation σ κ image) (size : Nat) : Phase :=
  fun r => c.program (r.map fun _ => size)

/-- The phases at the command rate, until the device knows what will come. -/
def introduction (c : Conversation σ κ image) (port : String) (size : Nat) : List Phase :=
  [Session.Opens port commandBaud, FindsValidator c.sync, AsksSize c size, c.header]

/-- The phases of the RAM stage at the transfer rate. -/
def ramTransfer (timing : Timing) (image : Image) : List Phase :=
  [Session.Switches image.header.transferBaud, Plays (RamStage.turns timing image)]

/-- The phases of the main stage, with blocks of `size` bytes. -/
def mainTransfer (timing : Timing) (image : Image) (port : String) (size : Nat) : List Phase :=
  [Session.Reopens port commandBaud true, Session.Switches image.header.transferBaud,
    Plays (MainStage.turns timing image size)]

/-- The phases of an update. -/
def course (c : Conversation σ κ image) (timing : Timing) (port : String) (patience size : Nat) :
    List Phase :=
  introduction c port size ++ (ramTransfer timing image ++ (mainTransfer timing image port size ++
    [Resync.Resyncs port c.sync patience]))

end Course

section Steps

variable {σ κ : Type} [SerialHost σ] [CommandChannel σ κ] {image : Image}
  (c : Conversation σ κ image) (timing : Timing) {port : String}

theorem findValidator_follows {run : Run σ κ} (h : Stands port c.Ready run) :
    Ends findValidator run (Follows [FindsValidator c.sync] fun _ run' =>
      Stands port c.Synced run') := by
  have hsync : Ends (Run.onLink CommandChannel.sync) run fun r t run' =>
      c.sync r t ∧ (r = .ok .ok → Stands port c.Synced run') := by
    refine Run.onLink_ends h.isOpen ((c.sync_ends run.link h.known).weaken ?_)
    rintro r t link ⟨hs, -, hsynced⟩
    exact ⟨hs, fun hr => ⟨h.name, h.isOpen, hsynced hr⟩⟩
  refine Follows.one (Ends.tried hsync ?_ ?_ ?_)
  · rintro status t run' ⟨hs, hstands⟩
    dsimp only
    split
    · next hok =>
      rw [Status.isOk_iff.mp hok] at hs hstands
      exact run_note_ends fun _ hrun => ⟨.found hs, fun _ => (hstands rfl).kept hrun⟩
    · next hno =>
      refine Ends.failed ⟨?_, fun hr => by cases hr⟩
      rw [List.append_nil]
      exact .refused hs fun heq => hno (Status.isOk_iff.mpr heq)
  · rintro e t run' ⟨hs, -⟩
    refine Ends.failed ⟨?_, fun hr => by cases hr⟩
    rw [List.append_nil]
    exact .unheard hs
  · rintro _ t run' ⟨hs, -⟩
    exact ⟨.unfinished hs, fun hr => by cases hr⟩

/-- The RAM stage, for whatever block size the device tells. -/
theorem ramUpload_follows {link : Link σ κ} (h : c.Synced link.channel link.command) :
    Ends (RamStage.upload timing image image.header.transferBaud) link
      (FollowsSized (fun size => [AsksSize c size, c.header] ++ ramTransfer timing image)
        fun size ram link' => ram = ⟨image.header.ramSize.toUInt64, size.toUInt64⟩ ∧
          c.Ready link'.channel link'.command) := by
  refine Ends.andThen (c.program_ends link h) ?_ ?_
  · rintro size t link₁ ⟨hp, hasked⟩
    obtain ⟨hpos, hword⟩ := c.fits size t hp
    have hrest : Ends (do
        Link.note (.blockSize size)
        RamStage.sendHeader image
        Link.onLine (Line.setBaud image.header.transferBaud)
        Link.onLine (RamStage.stream timing image image.header.transferBaud)
        pure (⟨image.header.ramSize.toUInt64, size.toUInt64⟩ : RamStage)) link₁
        (Follows ([c.header] ++ ([Session.Switches image.header.transferBaud] ++
          ([Plays (RamStage.turns timing image)] ++ []))) fun ram link' =>
            ram = ⟨image.header.ramSize.toUInt64, size.toUInt64⟩ ∧
              c.Ready link'.channel link'.command) := by
      refine link_note_follows fun l => Follows.andThen
        (Follows.one (I := fun link => c.Ready link.channel link.command)
          (c.header_ends { link₁ with line := l } (hasked size rfl))) ?_
      intro _ link₂ hready _
      refine Follows.andThen (Follows.one (I := fun link => c.Ready link.channel link.command)
        (Channel.onLine_ends ((setBaud_ends _ link₂.line).weaken ?_))) ?_
      · rintro _ u l ⟨a, rfl, rfl⟩
        refine ⟨?_, fun _ => hready⟩
        cases a with
        | ok _ => exact .switched
        | error e => exact .failed e
      intro _ link₃ hready₃ _
      refine Follows.andThen (Follows.one (I := fun link => c.Ready link.channel link.command)
        (Channel.onLine_ends ((ramStream_plays timing image _ link₃.line).weaken
          fun _ _ _ hplays => ⟨hplays, fun _ => hready₃⟩))) ?_
      exact fun _ link₄ hready₄ _ => Follows.value ⟨rfl, hready₄⟩
    refine hrest.weaken ?_
    rintro r u link₂ ⟨hr, hi⟩
    have hask : AsksSize c size (.ok ()) t := hp
    exact ⟨size, hpos, hword, (Runs.one hask).append hr, hi⟩
  · rintro e t link₁ ⟨hp, -⟩
    have hask : AsksSize c 1 (.error e) t := hp
    exact ⟨1, by decide, by decide, (Runs.one hask).extend _, fun _ hr => by cases hr⟩

theorem mainUpload_follows {size : Nat} (hs : 0 < size) (hw : size < 65536) {s : Session σ}
    (hport : s.port = port) (hopen : s.isOpen = true) :
    Ends (MainStage.upload timing image ⟨image.header.ramSize.toUInt64, size.toUInt64⟩
      image.header.transferBaud) s (Follows (mainTransfer timing image port size) fun _ s' =>
        s'.port = port ∧ s'.isOpen = true) := by
  refine Ends.given (Plan.ofRamStage_eq image hs hw) ?_
  refine Follows.andThen (p := [_])
    (Follows.one (I := fun s => s.port = port ∧ s.isOpen = true)
      ((Session.reopen_ends commandBaud timing.reopenDelay s).weaken ?_)) ?_
  · rintro r t s₁ ⟨hr, hport₁, hok, -⟩
    rw [hport, hopen] at hr
    exact ⟨hr, fun ha => ⟨hport₁.trans hport, (hok ha).1⟩⟩
  rintro _ s₁ ⟨hport₁, hopen₁⟩ _
  refine Follows.andThen (p := [_])
    (Follows.one (I := fun s => s.port = port ∧ s.isOpen = true)
      ((Session.setBaud_ends _ hopen₁).weaken ?_)) ?_
  · rintro r t s₂ ⟨hr, hport₂, hopen₂, -⟩
    exact ⟨hr, fun _ => ⟨hport₂.trans hport₁, hopen₂⟩⟩
  rintro _ s₂ ⟨hport₂, hopen₂⟩ _
  refine Follows.one (Session.withPort_ends hopen₂ ?_)
  exact (mainStream_plays timing image hs _ s₂.line).weaken
    fun _ _ _ hplays => ⟨hplays, fun _ => ⟨hport₂, hopen₂⟩⟩

/-- All steps of an update but the opening and the first exchange. -/
def delivery (timing : Timing) (image : Image) : RunM σ κ Unit := do
  let baud := image.header.transferBaud
  Run.note (.transferBaud image.header.variant.toByte baud)
  let ram ← Run.onLink (RamStage.upload timing image baud)
  Run.note .ramAccepted
  Run.onSession (MainStage.upload timing image ram baud)
  Run.note .mainAccepted
  Resync.run timing
  Run.note .complete

/-- The phases of the delivery. -/
def deliveryCourse (c : Conversation σ κ image) (timing : Timing) (port : String)
    (patience size : Nat) : List Phase :=
  [AsksSize c size, c.header] ++ (ramTransfer timing image ++
    (mainTransfer timing image port size ++ [Resync.Resyncs port c.sync patience]))

theorem delivery_runs {run : Run σ κ} (h : Stands port c.Synced run) :
    Ends (delivery timing image) run (FollowsSized
      (deliveryCourse c timing port run.session.line.patience) fun _ _ _ => True) := by
  refine note_followsSized fun run₃ hrun₃ => ?_
  have h₃ := h.kept hrun₃
  refine FollowsSized.andThen
    (p := fun size => [AsksSize c size, c.header] ++ ramTransfer timing image)
    (I := fun size ram run' =>
      ram = ⟨image.header.ramSize.toUInt64, size.toUInt64⟩ ∧ Stands port c.Ready run')
    (Run.onLink_ends h₃.isOpen ((ramUpload_follows c timing h₃.known).weaken ?_)) ?_
  · rintro r t link ⟨size, hpos, hword, hr, hi⟩
    exact ⟨size, hpos, hword, hr, fun ram ha => ⟨(hi ram ha).1, h₃.name, h₃.isOpen, (hi ram ha).2⟩⟩
  rintro size _ run₄ hpos hword ⟨rfl, h₄⟩ hp₄
  refine note_follows fun run₅ hrun₅ => ?_
  have h₅ := h₄.kept hrun₅
  refine Follows.andThen (I := fun _ => Stands port c.Ready) (Run.onSession_ends
    ((mainUpload_follows timing hpos hword h₅.name h₅.isOpen).weaken ?_)) ?_
  · rintro r t s ⟨hr, hi⟩
    exact ⟨hr, fun _ ha => ⟨(hi () ha).1, (hi () ha).2, h₅.known⟩⟩
  intro _ run₆ h₆ hp₆
  refine note_follows fun run₇ hrun₇ => ?_
  have h₇ := h₆.kept hrun₇
  have hpatience : run₇.session.line.patience = run.session.line.patience :=
    hrun₇.patience.trans (hp₆.trans (hrun₅.patience.trans (hp₄.trans hrun₃.patience)))
  refine Follows.andThen (p := [_]) (q := []) (Follows.one (I := fun _ => True)
    ((Resync.run_resyncs timing run₇ h₇.name h₇.isOpen h₇.known).weaken ?_)) ?_
  · intro r t run₈ hr
    rw [hpatience] at hr
    exact ⟨hr, fun _ => trivial⟩
  · exact fun _ run₈ _ _ => run_note_ends fun _ _ => ⟨.done (.note _), fun _ _ => trivial⟩

/-- The steps of an update on a closed session run through its course. -/
theorem steps_runs {run : Run σ κ} (hport : run.session.port = port)
    (hready : c.Ready run.channel run.command) :
    Ends (steps timing image) run (FollowsSized
      (course c timing port run.session.line.patience) fun _ _ _ => True) := by
  refine FollowsSized.afterPhases (p := [_]) (Follows.one (I := Stands port c.Ready)
    (Run.onSession_ends ((Session.openAt_ends commandBaud run.session).weaken ?_))) ?_
  · rintro r t s ⟨hr, hname, hopen, -⟩
    rw [hport] at hr
    exact ⟨hr, fun ha => ⟨hname.trans hport, (hopen ha).1, hready⟩⟩
  intro _ run₁ h₁ hp₁
  refine FollowsSized.afterPhases (p := [_]) (findValidator_follows c h₁) ?_
  intro _ run₂ h₂ hp₂
  have hpatience : run₂.session.line.patience = run.session.line.patience := hp₂.trans hp₁
  have hdelivery := delivery_runs c timing h₂
  rw [hpatience] at hdelivery
  exact hdelivery

theorem body_runs (address : AddressReading) (run : Run σ κ) (hport : run.session.port = port)
    (hready : c.Ready run.channel run.command) :
    Ends (body timing image address) run (FollowsSized
      (course c timing port run.session.line.patience) fun _ _ _ => True) := by
  have hsteps : ∀ run' : Run σ κ, run.OnlyLine run' →
      Ends (do Run.note (.updating address.value (← get).session.port); steps timing image) run'
        (FollowsSized (course c timing port run.session.line.patience) fun _ _ _ => True) := by
    intro run' hrun
    refine Ends.read (note_followsSized fun run'' hrun' => ?_)
    have hall := hrun.trans hrun'
    rw [← hall.patience]
    refine steps_runs c timing (hall.name.trans hport) ?_
    rw [hall.channel, hall.command]
    exact hready
  unfold body
  split
  · exact note_followsSized fun run' hrun => hsteps run' hrun
  · exact hsteps run (.refl run)

end Steps

end Update

/-- What the end of a session adds: the port is closed if it was open. -/
inductive Session.Finishes : Trace → Prop where
  | closed : Finishes []
  | closing (port : String) (answer : Except Error Unit) : Finishes [.closed port answer]

theorem Session.finish_finishes {σ : Type} [SerialHost σ] (s : Session σ) :
    ∃ t, s.line.Leads t s.finish.line ∧ Session.Finishes t := by
  obtain ⟨r, t, s', he, hl, hc, -⟩ := Session.close_ends s
  refine ⟨t, ?_, ?_⟩
  · cases r <;> (simp only [finish, he, outcome]; exact hl)
  · generalize s.isOpen = wasOpen at hc
    cases hc with
    | already => exact .closed
    | closed => exact .closing _ _
    | failed e => exact .closing _ _

section Updates

variable {σ κ : Type} [SerialHost σ] [CommandChannel σ κ] {image : Image}

/-- What holds of the body of an update holds of its result, and of its trace but for the end of
the session. -/
theorem update_ends (u : Updater σ κ) (image : Image) (port address : String)
    {P : Except Halt Unit → Trace → Prop}
    (h : Ends (Update.body u.timing image (.ofString address))
      ⟨Session.closed u.line port, u.channel, Update.command u.timing (.ofString address)⟩
      fun r t _ => P r t) :
    ∃ t last, P (u.update image port address).1 t ∧ Session.Finishes last ∧
      u.line.Leads (t ++ last) (u.update image port address).2.line := by
  obtain ⟨r, t, run, he, hl, hp⟩ := h
  obtain ⟨last, hlast, hfin⟩ := run.session.finish_finishes
  match r, hp with
  | .ok _, hp =>
    refine ⟨t, last, ?_, hfin, ?_⟩
    · simp only [Updater.update, he, outcome]
      exact hp
    · simp only [Updater.update, he, outcome]
      exact hl.trans hlast
  | .error (.failed e), hp =>
    refine ⟨t, last, ?_, hfin, ?_⟩
    · simp only [Updater.update, he, outcome]
      exact hp
    · simp only [Updater.update, he, outcome]
      exact hl.trans hlast
  | .error (.unfinished .overflow), hp =>
    refine ⟨t, last, ?_, hfin, ?_⟩
    · simp only [Updater.update, he, outcome]
      exact hp
    · simp only [Updater.update, he, outcome]
      exact hl.trans hlast
  | .error (.unfinished .patience), hp =>
    refine ⟨t, [], ?_, .closed, ?_⟩
    · simp only [Updater.update, he, outcome]
      exact hp
    · rw [List.append_nil]
      simp only [Updater.update, he, outcome]
      exact hl

/-- Every update runs through the course for some block size, and then closes the port. -/
theorem update_runs (c : Conversation σ κ image) (u : Updater σ κ) (port address : String)
    (hready : c.Ready u.channel (Update.command u.timing (.ofString address))) :
    ∃ size t last, 0 < size ∧ size < 65536 ∧
      Runs (Update.course c u.timing port u.line.patience size) (u.update image port address).1 t ∧
      Session.Finishes last ∧ u.line.Leads (t ++ last) (u.update image port address).2.line := by
  have hbody : Ends (Update.body u.timing image (.ofString address))
      ⟨Session.closed u.line port, u.channel, Update.command u.timing (.ofString address)⟩
      fun r t _ => ∃ size, 0 < size ∧ size < 65536 ∧
        Runs (Update.course c u.timing port u.line.patience size) r t := by
    refine (Update.body_runs c u.timing _ _ rfl hready).weaken ?_
    rintro r t _ ⟨size, hpos, hword, hr, -⟩
    refine ⟨size, hpos, hword, ?_⟩
    cases r <;> exact hr
  obtain ⟨t, last, ⟨size, hpos, hword, hruns⟩, hlast, hleads⟩ :=
    update_ends u image port address hbody
  exact ⟨size, t, last, hpos, hword, hruns, hlast, hleads⟩

end Updates

end SspUpdate
