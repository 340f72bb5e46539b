import SspUpdate.Proofs.Delivery
import SspUpdate.Proofs.PlainCalls

/-!
# The port during an update

An update opens its session first, and after that each of its parts is made of
operations of the session and of traffic that leaves the port with it. So the
session of every update is one that operations reach, whatever the result is,
and what was handed out is given back when the session ends.
-/

namespace SspUpdate

section Lines

variable {σ : Type} [SerialHost σ]

/-- The turns of a transfer are traffic. -/
theorem keeps_of_plays {act : LineM σ Unit} {us : List Turn}
    (h : ∀ l, Ends act l fun r t _ => Plays us r t) : Keeps act :=
  fun l => (h l).weaken fun _ _ _ hplays => hplays.traffic.stays

theorem mainStream_keeps (timing : Timing) (image : Image) (plan : Plan) (baud : UInt32) :
    Keeps (MainStage.stream timing image plan baud : LineM σ Unit) := by
  refine stays_law.andThen (keeps_of_plays (handshake_plays timing image)) fun _ => ?_
  refine stays_law.andThen (note_plain _).keeps fun _ => ?_
  refine stays_law.andThen (keeps_of_plays (sendBlocks_plays timing plan _ 0 0)) fun _ => ?_
  split
  · exact keeps_of_plays (sendRemainder_plays timing plan _)
  · exact stays_law.value ()

end Lines

section Links

variable {σ κ : Type} [SerialHost σ]

theorem ramUpload_keeps [CommandChannel σ κ] (talks : OnlyTalks σ κ) (timing : Timing)
    (image : Image) (baud : UInt32) : Keeps (RamStage.upload timing image baud : LinkM σ κ RamStage) := by
  have hprogram : Keeps (RamStage.requestProgram : LinkM σ κ Nat) := by
    intro link
    refine (requestProgram_ends (talks.send _)).weaken ?_
    rintro r t link' ⟨answer, ht, -⟩
    exact ht
  have hstream : Keeps (RamStage.stream timing image baud : LineM σ Unit) :=
    keeps_of_plays (ramStream_plays timing image baud)
  refine stays_law.andThen hprogram fun size => ?_
  refine stays_law.andThen (Link.onLine_plain (note_plain _)).keeps fun _ => ?_
  refine stays_law.andThen (RamStage.sendHeader_obeys talks.send image) fun _ => ?_
  refine stays_law.andThen (Link.onLine_plain (setBaud_plain baud)).keeps fun _ => ?_
  exact stays_law.andThen (Link.onLine_obeys hstream) fun _ => stays_law.value _

end Links

namespace Session

variable {σ : Type} [SerialHost σ]

/-- From wherever operations reached, more of them reach on. -/
def Onward (s : Session σ) (t : Trace) (s' : Session σ) : Prop :=
  ∀ line port deeds t₀, Reaches line port deeds t₀ s →
    ∃ deeds', Reaches line port deeds' (t₀ ++ t) s'

theorem onward_law : Law (Onward (σ := σ)) where
  nothing s line port deeds t₀ h := by
    rw [List.append_nil]
    exact ⟨deeds, h⟩
  append h h' line port deeds t₀ hreach := by
    obtain ⟨deeds', hreach'⟩ := h line port deeds t₀ hreach
    obtain ⟨deeds'', hreach''⟩ := h' line port deeds' _ hreach'
    rw [← List.append_assoc]
    exact ⟨deeds'', hreach''⟩

/-- Every operation but the opening leads onward. -/
theorem Order.onward (order : Order) (later : ∀ baud, order ≠ .openAt baud) :
    Obeys Onward (order.act : SessionM σ Unit) := by
  intro s
  obtain ⟨r, u, s', act, trace, -⟩ := order.act_ends s fun baud ho => absurd ho (later baud)
  refine ⟨r, u, s', act, trace, fun line port deeds t₀ hreach => ⟨deeds ++ [(order, r)], ?_⟩⟩
  exact .ordered order hreach (fun baud ho => absurd ho (later baud)) act trace

/-- So does what leaves the port with the session. -/
theorem onward_upholds : Upholds Trace.Stays (Onward (σ := σ)) where
  law := onward_law
  plain ht := ht.stays
  used hl stays _ _ deeds _ hreach := ⟨deeds, .used hreach stays hl⟩
  close := Order.onward .close nofun
  reopen baud ms := Order.onward (.reopen baud ms) nofun

theorem mainUpload_onward (timing : Timing) (image : Image) (ram : RamStage) (baud : UInt32) :
    Obeys Onward (MainStage.upload timing image ram baud : SessionM σ Unit) := by
  refine onward_law.andThen (onward_law.given _) fun plan => ?_
  refine onward_law.andThen (Order.onward (.reopen _ _) nofun) fun _ => ?_
  refine onward_law.andThen (Order.onward (.setBaud _) nofun) fun _ => ?_
  refine onward_law.andThen onward_upholds.requireOpen fun _ => ?_
  exact onward_upholds.onLine (mainStream_keeps timing image plan baud)

end Session

section Updates

variable {σ κ : Type} [SerialHost σ] [CommandChannel σ κ]

open Session (onward_upholds)

/-- Once the session is opened, everything that an update does leads onward. -/
theorem delivery_onward (talks : OnlyTalks σ κ) (timing : Timing) (image : Image) :
    Obeys (Run.Via Session.Onward) (Update.delivery timing image : RunM σ κ Unit) := by
  have law := onward_upholds.via (σ := σ) (κ := κ)
  refine law.andThen (onward_upholds.note _) fun _ => ?_
  refine law.andThen (onward_upholds.onLink (ramUpload_keeps talks timing image _)) fun ram => ?_
  refine law.andThen (onward_upholds.note _) fun _ => ?_
  have hmain := Session.mainUpload_onward (σ := σ) timing image ram image.header.transferBaud
  refine law.andThen (Upholds.onSession hmain) fun _ => ?_
  refine law.andThen (onward_upholds.note _) fun _ => ?_
  exact law.andThen (onward_upholds.resync talks.sync timing) fun _ => onward_upholds.note _

omit [CommandChannel σ κ] in
/-- A note on the way to the opening. -/
theorem note_reaches {n : Note} {k : Unit → RunM σ κ Unit} {line : Line σ} {port : String}
    {t₀ : Trace} {run : Run σ κ} (h : Session.Reaches line port [] t₀ run.session)
    (hk : ∀ t₁ run₁, Session.Reaches line port [] t₁ run₁.session → Ends (k ()) run₁ fun _ t run₂ =>
      ∃ deeds, Session.Reaches line port deeds (t₁ ++ t) run₂.session) :
    Ends (Run.note n >>= k) run fun _ t run₂ =>
      ∃ deeds, Session.Reaches line port deeds (t₀ ++ t) run₂.session := by
  have hnote : Ends (Run.note n) run fun r t run₁ =>
      r = .ok () ∧ Session.Reaches line port [] (t₀ ++ t) run₁.session := by
    obtain ⟨r, u, l, he, trace, rfl, hu⟩ := note_ends (l := run.session.line) (n := n)
      (Q := fun r t _ => r = .ok () ∧ t = [.noted n]) ⟨rfl, rfl⟩
    subst hu
    refine Run.onLine_ends ⟨_, _, l, he, trace, rfl, ?_⟩
    exact .used h (Trace.Silent.note n).stays trace
  refine Ends.andThen hnote ?_ ?_
  · rintro _ t run₁ ⟨-, hreach⟩
    refine (hk _ run₁ hreach).weaken fun r u run₂ hreach₂ => ?_
    rwa [List.append_assoc] at hreach₂
  · rintro _ _ _ ⟨hr, -⟩
    cases hr

/-- The steps of an update, from a session that was not opened yet. -/
theorem steps_reaches (talks : OnlyTalks σ κ) (timing : Timing) (image : Image)
    {line : Line σ} {port : String} {t₀ : Trace} {run : Run σ κ}
    (h : Session.Reaches line port [] t₀ run.session) :
    Ends (Update.steps timing image) run fun _ t run' =>
      ∃ deeds, Session.Reaches line port deeds (t₀ ++ t) run'.session := by
  have hopening : Ends (Run.onSession (Session.openAt commandBaud)) run fun r t run' =>
      ∃ deeds, Session.Reaches line port deeds (t₀ ++ t) run'.session := by
    refine Run.onSession_ends ?_
    obtain ⟨r, u, s', act, trace, -⟩ :=
      Session.Order.act_ends (.openAt commandBaud) run.session fun _ _ => h.sound.fresh rfl
    exact ⟨r, u, s', act, trace, _, .ordered _ h (fun _ _ => rfl) act trace⟩
  refine Ends.andThen hopening ?_ fun _ _ _ hreach => hreach
  rintro _ t run₁ ⟨deeds, hreach⟩
  have hrest : Obeys (Run.Via Session.Onward) (do
      Update.findValidator
      Update.delivery timing image : RunM σ κ Unit) :=
    onward_upholds.via.andThen (onward_upholds.findValidator talks.sync) fun _ =>
      delivery_onward talks timing image
  refine (hrest run₁).weaken fun r u run₂ honward => ?_
  rw [← List.append_assoc]
  exact honward line port deeds _ hreach

theorem body_reaches (talks : OnlyTalks σ κ) (timing : Timing) (image : Image)
    (address : AddressReading) {line : Line σ} {port : String} {t₀ : Trace} {run : Run σ κ}
    (h : Session.Reaches line port [] t₀ run.session) :
    Ends (Update.body timing image address) run fun _ t run' =>
      ∃ deeds, Session.Reaches line port deeds (t₀ ++ t) run'.session := by
  have hsteps : ∀ t₁ (run₁ : Run σ κ), Session.Reaches line port [] t₁ run₁.session →
      Ends (do Run.note (.updating address.value (← get).session.port); Update.steps timing image)
        run₁ fun _ t run' => ∃ deeds, Session.Reaches line port deeds (t₁ ++ t) run'.session :=
    fun t₁ run₁ h₁ =>
      Ends.read (note_reaches h₁ fun t₂ run₂ h₂ => steps_reaches talks timing image h₂)
  unfold Update.body
  split
  · exact note_reaches h hsteps
  · exact hsteps t₀ run h

/-- The session of an update is one that operations reach; unless the update waits for ever, the
session ends with it. -/
theorem update_reaches (talks : OnlyTalks σ κ) (u : Updater σ κ) (image : Image)
    (port address : String) : ∃ deeds t s, Session.Reaches u.line port deeds t s ∧
      ((u.update image port address).2.line = s.finish.line ∨
        (u.update image port address).1 = .error (.unfinished .patience) ∧
          (u.update image port address).2.line = s.line) := by
  have hbody : Ends (Update.body u.timing image (.ofString address))
      ⟨Session.closed u.line port, u.channel, Update.command u.timing (.ofString address)⟩
      fun _ t (run : Run σ κ) => ∃ deeds, Session.Reaches u.line port deeds ([] ++ t) run.session :=
    body_reaches talks u.timing image _ .unopened
  obtain ⟨r, t, run, he, -, deeds, hreach⟩ := hbody
  rw [List.nil_append] at hreach
  refine ⟨deeds, t, run.session, hreach, ?_⟩
  match r with
  | .ok _ => exact .inl (by simp only [Updater.update, he, outcome])
  | .error (.failed e) => exact .inl (by simp only [Updater.update, he, outcome])
  | .error (.unfinished .overflow) => exact .inl (by simp only [Updater.update, he, outcome])
  | .error (.unfinished .patience) =>
    refine .inr ⟨?_, ?_⟩ <;> simp only [Updater.update, he, outcome]

/-- However the calls to the port are answered, and whatever else a session does with it: the
port is opened only while no handle is held, every handle is closed exactly once by the end of
the session, and the session tells truly whether it holds one and at which rate it was last put.
A switch that fails changes nothing, and a reopening that fails leaves the session closed. The
session of every update, whatever its result is, is such a session. -/
theorem port_ownership (talks : OnlyTalks σ κ) :
    (∀ (line : Line σ) (port : String) (deeds : List Session.Deed) (t : Trace) (s : Session σ),
      Session.Reaches line port deeds t s → Session.OwnsPort deeds t s) ∧
    (∀ (s s' : Session σ) (baud : UInt32) (h : Halt), Session.setBaud baud s = .error h s' →
      s'.isOpen = s.isOpen ∧ s'.baud = s.baud ∧ s'.port = s.port) ∧
    (∀ (s s' : Session σ) (baud : UInt32) (ms : Nat) (h : Halt),
      Session.reopen baud ms s = .error h s' →
      s'.isOpen = false ∧ s'.baud = s.baud ∧ s'.port = s.port) ∧
    ∀ (u : Updater σ κ) (image : Image) (port address : String), ∃ deeds t s,
      Session.Reaches u.line port deeds t s ∧ ∃ trace : Trace,
        (u.update image port address).2.line.history = u.line.history ++ trace ∧
        (trace.Owned false ∨
          (u.update image port address).1 = .error (.unfinished .patience) ∧ trace = t) := by
  refine ⟨fun _ _ _ _ _ hreach => hreach.ownsPort, fun _ _ _ _ hact => ?_, fun _ _ _ _ _ hact => ?_,
    fun u image port address => ?_⟩
  · exact Session.setBaud_refused hact
  · exact Session.reopen_refused hact
  · obtain ⟨deeds, t, s, hreach, hend⟩ := update_reaches talks u image port address
    refine ⟨deeds, t, s, hreach, ?_⟩
    obtain hline | ⟨hresult, hline⟩ := hend
    · obtain ⟨last, hlast, howned⟩ := hreach.ownsPort.released
      refine ⟨t ++ last, ?_, .inl howned⟩
      rw [hline]
      exact (hreach.leads.trans hlast).history
    · refine ⟨t, ?_, .inr ⟨hresult, rfl⟩⟩
      rw [hline]
      exact hreach.leads.history

end Updates

/-- A wire whose port cannot be closed cleanly when the wait for the device begins. -/
def Wire.jammed : Wire :=
  { Wire.rehearsed with faults := [⟨.closing, 1, 1, .io ⟨.other, "jammed"⟩⟩] }

theorem port_ownership_jammed :
    let u : Updater Wire Channel := ⟨⟨Wire.jammed, [], 20⟩, .new, {}⟩
    (u.update .small "COM1" "0").1 = .error (.failed (.io ⟨.other, "jammed"⟩)) ∧
      ∃ trace : Trace, (u.update .small "COM1" "0").2.line.history = u.line.history ++ trace ∧
        trace.Owned false ∧ trace.closings = [1, 1] := by
  intro u
  have hfails : (u.update .small "COM1" "0").1 = .error (.failed (.io ⟨.other, "jammed"⟩)) := by
    decide +kernel
  have hcounts : Trace.closings (u.update .small "COM1" "0").2.line.history = [1, 1] := by
    decide +kernel
  obtain ⟨-, -, -, hupdates⟩ := port_ownership (σ := Wire) Channel.onlyTalks
  obtain ⟨deeds, t, s, -, trace, htrace, howned⟩ := hupdates u .small "COM1" "0"
  have hall : (u.update .small "COM1" "0").2.line.history = trace := htrace
  rw [hall] at hcounts
  refine ⟨hfails, trace, htrace, ?_, hcounts⟩
  obtain howned | ⟨hforever, -⟩ := howned
  · exact howned
  · rw [hfails] at hforever
    cases hforever

end SspUpdate
