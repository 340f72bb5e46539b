import Mathlib.Control.Monad.Basic
import SspUpdate.Station

/-!
# Actions that only write

Much of what a command does on the station is to say what it does. `Wrote`
relates two stations between which messages were written that ask nothing, and
the serial port perhaps was used; `Gives` says that this is all an action does
besides giving its result. There is one rule for each way of building actions,
and one lemma for each message.
-/

namespace SspUpdate

/-- Belongs to a question on the terminal. -/
def Output.IsPrompt : Output → Prop
  | .shown _ | .awaited => True
  | .out _ | .err _ | .log _ => False

namespace Station

variable {δ α β : Type} {s s' s'' : Station δ} {serial serial' : Serial.Attached δ}

/-- From `s` to `s'` the serial port came to be `serial`, something was written that is no
question, and nothing else happened. -/
def Wrote (s : Station δ) (serial : Serial.Attached δ) (s' : Station δ) : Prop :=
  ∃ said, s' = { s with serial, output := said ++ s.output } ∧ ∀ o ∈ said, ¬ o.IsPrompt

namespace Wrote

theorem refl (s : Station δ) : Wrote s s.serial s := ⟨[], rfl, by simp⟩

theorem trans (h : Wrote s serial s') (h' : Wrote s' serial' s'') : Wrote s serial' s'' := by
  obtain ⟨said, rfl, hsaid⟩ := h
  obtain ⟨more, rfl, hmore⟩ := h'
  refine ⟨more ++ said, by rw [List.append_assoc], fun o ho => ?_⟩
  exact (List.mem_append.mp ho).elim (hmore o) (hsaid o)

theorem serial_eq (h : Wrote s serial s') : s'.serial = serial := by
  obtain ⟨_, rfl, -⟩ := h
  rfl

/-- What only writes, after what only wrote. -/
theorem more (h : Wrote s s.serial s') (h' : Wrote s' s'.serial s'') : Wrote s s.serial s'' :=
  h.serial_eq ▸ h.trans h'

theorem files_eq (h : Wrote s serial s') : s'.files = s.files := by
  obtain ⟨_, rfl, -⟩ := h
  rfl

theorem ports_eq (h : Wrote s serial s') : s'.ports = s.ports := by
  obtain ⟨_, rfl, -⟩ := h
  rfl

theorem env_eq (h : Wrote s serial s') : s'.env = s.env := by
  obtain ⟨_, rfl, -⟩ := h
  rfl

theorem patience_eq (h : Wrote s serial s') : s'.patience = s.patience := by
  obtain ⟨_, rfl, -⟩ := h
  rfl

theorem terminal_eq (h : Wrote s serial s') : s'.terminal = s.terminal := by
  obtain ⟨_, rfl, -⟩ := h
  rfl

theorem colors_eq (h : Wrote s serial s') : s'.colors = s.colors := by
  obtain ⟨_, rfl, -⟩ := h
  rfl

end Wrote

/-- The end of an action, by its result. -/
def finished (s : Station δ) : Except Failure α → EStateM.Result Failure (Station δ) α
  | .ok a => .ok a s
  | .error f => .error f s

theorem bind_ok {act : StationM δ α} {a : α} (h : act s = finished s' (.ok a))
    (k : α → StationM δ β) : (act >>= k) s = k a s' := by
  simp only [bind, EStateM.bind, h, finished]

theorem bind_error {act : StationM δ α} {f : Failure} (h : act s = finished s' (.error f))
    (k : α → StationM δ β) : (act >>= k) s = finished s' (.error f) := by
  simp only [bind, EStateM.bind, h, finished]

/-- The action has the result, leaves the port as `serial`, and does no more than write. -/
def Gives (act : StationM δ α) (s : Station δ) (r : Except Failure α)
    (serial : Serial.Attached δ) : Prop :=
  ∃ s', act s = finished s' r ∧ Wrote s serial s'

namespace Gives

variable {act : StationM δ α} {a : α} {r : Except Failure β}

theorem value (a : α) (s : Station δ) : Gives (pure a) s (.ok a) s.serial := ⟨s, rfl, .refl s⟩

theorem raised (f : Failure) (s : Station δ) :
    Gives (raise f : StationM δ α) s (.error f) s.serial := ⟨s, rfl, .refl s⟩

/-- Reading the station writes nothing. -/
theorem read {k : Station δ → StationM δ β} (h : Gives (k s) s r serial) :
    Gives (get >>= k) s r serial := h

theorem andThen {k : α → StationM δ β} (h : Gives act s (.ok a) serial)
    (hk : ∀ s', Wrote s serial s' → Gives (k a) s' r serial') : Gives (act >>= k) s r serial' := by
  obtain ⟨s₁, he, hw⟩ := h
  obtain ⟨s₂, he', hw'⟩ := hk s₁ hw
  exact ⟨s₂, (bind_ok he k).trans he', hw.trans hw'⟩

/-- What only writes, in front of what follows. -/
theorem first {k : α → StationM δ β} (h : Gives act s (.ok a) s.serial)
    (hk : ∀ s', Wrote s s.serial s' → Gives (k a) s' r s'.serial) :
    Gives (act >>= k) s r s.serial :=
  h.andThen fun s' hw => hw.serial_eq ▸ hk s' hw

theorem failed {f : Failure} (h : Gives act s (.error f) serial) (k : α → StationM δ β) :
    Gives (act >>= k) s (.error f) serial := by
  obtain ⟨s₁, he, hw⟩ := h
  exact ⟨s₁, bind_error he k, hw⟩

/-- Behind messages, what follows decides how it ends. -/
theorem ends {k : α → StationM δ β} {Ends : β → Station δ → Prop} (h : Gives act s (.ok a) serial)
    (hk : ∀ s', Wrote s serial s' → ∃ b s'', k a s' = .ok b s'' ∧ Ends b s'') :
    ∃ b s'', (act >>= k) s = .ok b s'' ∧ Ends b s'' := by
  obtain ⟨s₁, he, hw⟩ := h
  obtain ⟨b, s₂, he', hends⟩ := hk s₁ hw
  exact ⟨b, s₂, (bind_ok he k).trans he', hends⟩

end Gives

section Messages

theorem emit_gives {o : Output} (ho : ¬ o.IsPrompt) (s : Station δ) :
    Gives (emit o) s (.ok ()) s.serial :=
  ⟨_, rfl, [o], rfl, by simpa using ho⟩

theorem say_gives (line : String) (s : Station δ) : Gives (say line) s (.ok ()) s.serial :=
  emit_gives id s

theorem log_gives (level : Level) (target text : String) (s : Station δ) :
    Gives (log level target text) s (.ok ()) s.serial := emit_gives id s

theorem not_isPrompt_of_mem_log {lines : List LogLine} {o : Output}
    (ho : o ∈ (lines.map Output.log).reverse) : ¬ o.IsPrompt := by
  obtain ⟨line, -, rfl⟩ := List.mem_map.mp (List.mem_reverse.mp ho)
  exact id

theorem logAll_gives (lines : List LogLine) (s : Station δ) :
    Gives (logAll lines) s (.ok ()) s.serial :=
  ⟨_, rfl, (lines.map Output.log).reverse, rfl, fun _ => not_isPrompt_of_mem_log⟩

theorem paint_gives (style : Text.Style) (text : String) (s : Station δ) :
    Gives (paint style text) s (.ok (style.paint s.colors text)) s.serial := ⟨s, rfl, .refl s⟩

theorem forM_gives {act : α → StationM δ Unit} (h : ∀ a s, Gives (act a) s (.ok ()) s.serial)
    (items : List α) (s : Station δ) : Gives (items.forM act) s (.ok ()) s.serial := by
  induction items generalizing s with
  | nil => exact .value () s
  | cons a items ih => exact (h a s).first fun s' _ => ih s'

/-- What follows on the messages of an enumeration looks at the ports again. -/
theorem detect_gives (s : Station δ) :
    Gives detect s (.ok (DetectedPort.ofEnumeration s.ports)) s.serial := by
  have hrest : ∀ s', Wrote s s.serial s' →
      Gives (do return DetectedPort.ofEnumeration (← get).ports : StationM δ _) s'
        (.ok (DetectedPort.ofEnumeration s.ports)) s'.serial :=
    fun s' hw => ⟨s', by rw [← hw.ports_eq]; rfl, .refl s'⟩
  refine Gives.read ?_
  split
  · exact (log_gives _ _ _ s).first hrest
  · exact (logAll_gives _ s).first hrest

theorem ensureNotInterrupted_gives (hstop : s.serial.stop = false) :
    Gives ensureNotInterrupted s (.ok ()) s.serial := by
  refine Gives.read ?_
  rw [hstop]
  exact .value () s

end Messages

end Station

end SspUpdate
