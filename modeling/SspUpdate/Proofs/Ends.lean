import SspUpdate.Update

/-!
# How an action ends

Statements about runs are statements about the entries that an action adds to
the journal. `Ends act st Q` says that from `st` the action ends with a result,
a trace of new entries and a last state that satisfy `Q`. The judgment also
keeps what holds of every action: the journal only grows, and the host went
from its first state to its last one by answering exactly what the trace says.

Each rule below belongs to one way of building actions, so a function is
followed by applying the rules in the order of its definition.
-/

namespace SspUpdate

/-- New entries of a journal, oldest first. -/
abbrev Trace := List Entry

/-- The entry is the host's answer in state `s`, and left it in state `s'`. -/
def Entry.Moves {σ : Type} [SerialHost σ] (patience : Nat) (s s' : σ) : Entry → Prop
  | .opened port baud answer => SerialHost.openPort port baud s = (answer, s')
  | .closed _ answer => SerialHost.closePort s = (answer, s')
  | .switched baud answer => SerialHost.setBaud baud s = (answer, s')
  | .wrote data answer => SerialHost.write data s = (answer, s')
  | .flushed answer => SerialHost.flush s = (answer, s')
  | .received ms answer => SerialHost.readWithin patience ms s = (answer, s')
  | .slept ms => SerialHost.sleep ms s = s'
  | .stopAsked answer => SerialHost.stopRequested s = (answer, s')
  | .progressed progress => SerialHost.report progress s = s'
  | .noted _ => s = s'

/-- The host goes from the first state to the last by answering as the trace says. -/
inductive Path {σ : Type} [SerialHost σ] (patience : Nat) : σ → Trace → σ → Prop where
  | nil (s : σ) : Path patience s [] s
  | cons {s s' s'' : σ} {e : Entry} {t : Trace} (head : e.Moves patience s s')
      (tail : Path patience s' t s'') : Path patience s (e :: t) s''

section Lines

variable {σ : Type} [SerialHost σ]

theorem Path.append {patience : Nat} {s s' s'' : σ} {t u : Trace}
    (h : Path patience s t s') (h' : Path patience s' u s'') :
    Path patience s (t ++ u) s'' := by
  induction h with
  | nil => exact h'
  | cons head _ ih => exact .cons head (ih h')

/-- The line goes from `l` to `l'` and adds `t` to its journal. -/
structure Line.Leads (l : Line σ) (t : Trace) (l' : Line σ) : Prop where
  history : l'.history = l.history ++ t
  path : Path l.patience l.host t l'.host
  patience : l'.patience = l.patience

theorem Line.Leads.refl (l : Line σ) : l.Leads [] l := ⟨by simp, .nil _, rfl⟩

theorem Line.Leads.trans {l l' l'' : Line σ} {t u : Trace} (h : l.Leads t l')
    (h' : l'.Leads u l'') : l.Leads (t ++ u) l'' where
  history := by rw [h'.history, h.history, List.append_assoc]
  path := h.path.append (h.patience ▸ h'.path)
  patience := h'.patience.trans h.patience

end Lines

/-- States that hold a line. -/
class HasLine (s : Type) (σ : outParam Type) where
  line : s → Line σ

instance {σ : Type} : HasLine (Line σ) σ := ⟨id⟩

instance {σ : Type} : HasLine (Session σ) σ := ⟨Session.line⟩

instance {σ κ : Type} : HasLine (Link σ κ) σ := ⟨Link.line⟩

instance {σ κ : Type} : HasLine (Run σ κ) σ := ⟨fun r => r.session.line⟩

/-- A result with the state it left, as an action gives it. -/
def outcome {s α : Type} (st : s) : Except Halt α → EStateM.Result Halt s α
  | .ok a => .ok a st
  | .error h => .error h st

/-- How an action ends: its result, and the state it leaves. -/
def ended {s α : Type} (act : EStateM Halt s α) (st : s) : Except Halt α × s :=
  match act st with
  | .ok a st' => (.ok a, st')
  | .error h st' => (.error h, st')

/-- From `st` the action ends with a result, new entries and a state that satisfy `Q`. -/
def Ends {s σ α : Type} [SerialHost σ] [HasLine s σ] (act : EStateM Halt s α) (st : s)
    (Q : Except Halt α → Trace → s → Prop) : Prop :=
  ∃ r t st', act st = outcome st' r ∧ (HasLine.line st).Leads t (HasLine.line st') ∧ Q r t st'

namespace Ends

variable {s σ α β : Type} [SerialHost σ] [HasLine s σ] {st : s}

theorem weaken {act : EStateM Halt s α} {P Q : Except Halt α → Trace → s → Prop}
    (h : Ends act st P) (hq : ∀ r t st', P r t st' → Q r t st') : Ends act st Q := by
  obtain ⟨r, t, st', he, hl, hp⟩ := h
  exact ⟨r, t, st', he, hl, hq r t st' hp⟩

theorem value {a : α} {Q : Except Halt α → Trace → s → Prop} (h : Q (.ok a) [] st) :
    Ends (pure a) st Q :=
  ⟨.ok a, [], st, rfl, .refl _, h⟩

theorem thrown {h : Halt} {Q : Except Halt α → Trace → s → Prop} (hq : Q (.error h) [] st) :
    Ends (throw h) st Q :=
  ⟨.error h, [], st, rfl, .refl _, hq⟩

theorem failed {e : Error} {Q : Except Halt α → Trace → s → Prop}
    (h : Q (.error (.failed e)) [] st) : Ends (fail e) st Q := thrown h

theorem andThen {act : EStateM Halt s α} {f : α → EStateM Halt s β}
    {P : Except Halt α → Trace → s → Prop} {Q : Except Halt β → Trace → s → Prop}
    (h : Ends act st P)
    (hok : ∀ a t st', P (.ok a) t st' → Ends (f a) st' fun r u st'' => Q r (t ++ u) st'')
    (herr : ∀ e t st', P (.error e) t st' → Q (.error e) t st') : Ends (act >>= f) st Q := by
  obtain ⟨r, t, st', he, hl, hp⟩ := h
  cases r with
  | error e =>
    refine ⟨.error e, t, st', ?_, hl, herr e t st' hp⟩
    simp only [bind, EStateM.bind, he, outcome]
  | ok a =>
    obtain ⟨r, u, st'', he', hl', hq⟩ := hok a t st' hp
    refine ⟨r, t ++ u, st'', ?_, hl.trans hl', hq⟩
    simp only [bind, EStateM.bind, he, outcome]
    exact he'

/-- Reading the state adds nothing. -/
theorem read {f : s → EStateM Halt s β} {Q : Except Halt β → Trace → s → Prop}
    (h : Ends (f st) st Q) : Ends (get >>= f) st Q := h

/-- Changing the state beside the line adds nothing. -/
theorem change {g : s → s} {k : Unit → EStateM Halt s β} {Q : Except Halt β → Trace → s → Prop}
    (hg : HasLine.line (g st) = HasLine.line st) (h : Ends (k ()) (g st) Q) :
    Ends (modify g >>= k) st Q := by
  obtain ⟨r, t, st', he, hl, hq⟩ := h
  exact ⟨r, t, st', he, hg ▸ hl, hq⟩

/-- A result that is there is the value. -/
theorem result {a : α} {x : Except Error α} {k : α → EStateM Halt s β}
    {Q : Except Halt β → Trace → s → Prop} (hx : x = .ok a) (h : Ends (k a) st Q) :
    Ends (ofExcept x >>= k) st Q := by
  subst hx
  exact h

/-- A result that is missing is the failure. -/
theorem missing {e : Error} {x : Except Error α} {k : α → EStateM Halt s β}
    {Q : Except Halt β → Trace → s → Prop} (hx : x = .error e)
    (h : Q (.error (.failed e)) [] st) : Ends (ofExcept x >>= k) st Q := by
  subst hx
  exact failed h

/-- A result that is there is the value, also where it may be cut short. -/
theorem given {a : α} {x : Except Halt α} {k : α → EStateM Halt s β}
    {Q : Except Halt β → Trace → s → Prop} (hx : x = .ok a) (h : Ends (k a) st Q) :
    Ends (ofResult x >>= k) st Q := by
  subst hx
  exact h

/-- A number that fits is the value. -/
theorem fits {a : α} {x : Option α} {k : α → EStateM Halt s β}
    {Q : Except Halt β → Trace → s → Prop} (hx : x = some a) (h : Ends (k a) st Q) :
    Ends (checked x >>= k) st Q := by
  subst hx
  exact h

/-- A number that does not fit breaks the action off. -/
theorem overflows {x : Option α} {k : α → EStateM Halt s β}
    {Q : Except Halt β → Trace → s → Prop} (hx : x = none)
    (h : Q (.error (.unfinished .overflow)) [] st) : Ends (checked x >>= k) st Q := by
  subst hx
  exact thrown h

/-- A failure that is caught is a value; what is cut short is not caught. -/
theorem caught {act : EStateM Halt s α} {Q : Except Halt (Except Error α) → Trace → s → Prop}
    (h : Ends act st fun r t st' =>
      match r with
      | .ok a => Q (.ok (.ok a)) t st'
      | .error (.failed e) => Q (.ok (.error e)) t st'
      | .error (.unfinished cut) => Q (.error (.unfinished cut)) t st') :
    Ends (attempt act) st Q := by
  obtain ⟨r, t, st', he, hl, hq⟩ := h
  match r, hq with
  | .ok a, hq => exact ⟨.ok (.ok a), t, st', by simp only [attempt, he, outcome], hl, hq⟩
  | .error (.failed e), hq =>
    exact ⟨.ok (.error e), t, st', by simp only [attempt, he, outcome], hl, hq⟩
  | .error (.unfinished cut), hq =>
    exact ⟨.error (.unfinished cut), t, st', by simp only [attempt, he, outcome], hl, hq⟩

/-- An action that is tried goes on with its value or its failure. -/
theorem tried {act : EStateM Halt s α} {k : Except Error α → EStateM Halt s β}
    {P : Except Halt α → Trace → s → Prop} {Q : Except Halt β → Trace → s → Prop}
    (h : Ends act st P)
    (hok : ∀ a t st', P (.ok a) t st' → Ends (k (.ok a)) st' fun r u st'' => Q r (t ++ u) st'')
    (herr : ∀ e t st', P (.error (.failed e)) t st' →
      Ends (k (.error e)) st' fun r u st'' => Q r (t ++ u) st'')
    (hend : ∀ cut t st', P (.error (.unfinished cut)) t st' →
      Q (.error (.unfinished cut)) t st') :
    Ends (attempt act >>= k) st Q := by
  refine andThen (P := fun r t st' =>
    (∃ a, r = .ok (.ok a) ∧ P (.ok a) t st') ∨
      (∃ e, r = .ok (.error e) ∧ P (.error (.failed e)) t st') ∨
      ∃ cut, r = .error (.unfinished cut) ∧ P (.error (.unfinished cut)) t st')
    (caught (h.weaken ?_)) ?_ ?_
  · rintro ((e | cut) | a) t st' hp
    · exact .inr (.inl ⟨e, rfl, hp⟩)
    · exact .inr (.inr ⟨cut, rfl, hp⟩)
    · exact .inl ⟨a, rfl, hp⟩
  · rintro x t st' (⟨a, ⟨⟩, hp⟩ | ⟨e, ⟨⟩, hp⟩ | ⟨cut, hr, -⟩)
    · exact hok a t st' hp
    · exact herr e t st' hp
    · cases hr
  · rintro e t st' (⟨a, hr, -⟩ | ⟨e', hr, -⟩ | ⟨cut, ⟨⟩, hp⟩)
    · cases hr
    · cases hr
    · exact hend cut t st' hp

/-- What is known of how the action ends is true of the way it ended. -/
theorem reached {act : EStateM Halt s α} {Q : Except Halt α → Trace → s → Prop}
    {r : Except Halt α} {st' : s} (h : Ends act st Q) (hact : act st = outcome st' r) :
    ∃ t, (HasLine.line st).Leads t (HasLine.line st') ∧ Q r t st' := by
  obtain ⟨r₁, t, st₁, he, hl, hq⟩ := h
  have hsame : outcome st₁ r₁ = outcome st' r := he.symm.trans hact
  have hend : r₁ = r ∧ st₁ = st' := by
    cases r₁ <;> cases r <;> simp_all [outcome]
  obtain ⟨rfl, rfl⟩ := hend
  exact ⟨t, hl, hq⟩

theorem end_reached {act : EStateM Halt s α} {Q : Except Halt α → Trace → s → Prop}
    (h : Ends act st Q) : ∃ t, (HasLine.line st).Leads t (HasLine.line (ended act st).2) ∧
      Q (ended act st).1 t (ended act st).2 := by
  obtain ⟨r, t, st', he, hl, hq⟩ := h
  have hend : ended act st = (r, st') := by
    cases r <;> simp only [ended, he, outcome]
  rw [hend]
  exact ⟨t, hl, hq⟩

/-- The like with the trace that is known. -/
theorem known {act : EStateM Halt s α} {Q : Except Halt α → Trace → s → Prop}
    {r : Except Halt α} {t : Trace} {st' : s} (h : Ends act st Q) (hact : act st = outcome st' r)
    (hl : (HasLine.line st).Leads t (HasLine.line st')) : Q r t st' := by
  obtain ⟨u, hl', hq⟩ := h.reached hact
  have htrace : (HasLine.line st).history ++ u = (HasLine.line st).history ++ t :=
    hl'.history.symm.trans hl.history
  rw [List.append_cancel_left htrace] at hq
  exact hq

/-- What is known of how the action ends in two ways is known of one end. -/
theorem both {act : EStateM Halt s α} {P Q : Except Halt α → Trace → s → Prop}
    (h : Ends act st P) (h' : Ends act st Q) :
    Ends act st fun r t st' => P r t st' ∧ Q r t st' := by
  obtain ⟨r, t, st', he, hl, hp⟩ := h
  exact ⟨r, t, st', he, hl, hp, h'.known he hl⟩

/-- No action changes the patience of the line. -/
theorem patient {act : EStateM Halt s α} {Q : Except Halt α → Trace → s → Prop}
    (h : Ends act st Q) : Ends act st fun r t st' =>
      Q r t st' ∧ (HasLine.line st').patience = (HasLine.line st).patience := by
  obtain ⟨r, t, st', he, hl, hq⟩ := h
  exact ⟨r, t, st', he, hl, hq, hl.patience⟩

/-- An action on a part that holds the line ends as it does on its own. -/
theorem part {p : Type} [HasLine p σ] {get : s → p} {put : p → s → s} {act : EStateM Halt p α}
    {Q : Except Halt α → Trace → s → Prop}
    (hget : HasLine.line (get st) = HasLine.line st)
    (hput : ∀ x, HasLine.line (put x st) = HasLine.line x)
    (h : Ends act (get st) fun r t x => Q r t (put x st)) : Ends (zoom get put act) st Q := by
  obtain ⟨r, t, x, he, hl, hq⟩ := h
  refine ⟨r, t, put x st, ?_, ?_, hq⟩
  · cases r <;> simp only [zoom, he, outcome]
  · rw [hput, ← hget]
    exact hl

end Ends

section Lines

variable {σ α : Type} [SerialHost σ] {l : Line σ}

theorem ask_ends {question : σ → α × σ} {entry : α → Entry}
    {Q : Except Halt α → Trace → Line σ → Prop}
    (hm : ∀ a s', question l.host = (a, s') → (entry a).Moves l.patience l.host s')
    (h : ∀ a s', Q (.ok a) [entry a] ⟨s', entry a :: l.journal, l.patience⟩) :
    Ends (Line.ask question entry) l Q := by
  obtain ⟨a, s', hq⟩ : ∃ a s', question l.host = (a, s') := ⟨_, _, rfl⟩
  refine ⟨.ok a, [entry a], ⟨s', entry a :: l.journal, l.patience⟩, ?_, ⟨?_, ?_, rfl⟩, h a s'⟩
  · simp only [Line.ask, hq, outcome]
  · simp only [HasLine.line, id, Line.history, List.reverse_cons]
  · exact .cons (hm a s' hq) (.nil _)

theorem note_ends {n : Note} {Q : Except Halt Unit → Trace → Line σ → Prop}
    (h : Q (.ok ()) [.noted n] { l with journal := .noted n :: l.journal }) :
    Ends (Line.note n) l Q := by
  refine ⟨.ok (), [.noted n], _, rfl, ⟨?_, .cons rfl (.nil _), rfl⟩, h⟩
  simp only [HasLine.line, id, Line.history, List.reverse_cons]

end Lines

end SspUpdate
