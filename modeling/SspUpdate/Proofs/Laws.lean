import SspUpdate.Proofs.SessionCalls

/-!
# Laws of actions

Some statements about an action do not depend on its result: they relate the
state before it, its trace and the state after it, and what holds of two parts
holds of the whole. `Obeys P act` says that `P` holds of every run of the
action, and there is one rule for each way of building actions, so a function
is seen to obey a law by going through its definition once.
-/

namespace SspUpdate

/-- A relation that holds of doing nothing, and of the whole if it holds of two parts. -/
structure Law {s : Type} (P : s → Trace → s → Prop) : Prop where
  nothing : ∀ st, P st [] st
  append : ∀ {st st' st'' : s} {t u : Trace}, P st t st' → P st' u st'' → P st (t ++ u) st''

/-- However the action ends, the relation holds of what it did. -/
def Obeys {s σ α : Type} [SerialHost σ] [HasLine s σ] (P : s → Trace → s → Prop)
    (act : EStateM Halt s α) : Prop :=
  ∀ st, Ends act st fun _ t st' => P st t st'

namespace Law

variable {s σ α β : Type} [SerialHost σ] [HasLine s σ] {P : s → Trace → s → Prop}

theorem value (law : Law P) (a : α) : Obeys P (pure a : EStateM Halt s α) :=
  fun st => Ends.value (law.nothing st)

theorem thrown (law : Law P) (h : Halt) : Obeys P (throw h : EStateM Halt s α) :=
  fun st => Ends.thrown (law.nothing st)

theorem failed (law : Law P) (e : Error) : Obeys P (fail e : EStateM Halt s α) :=
  law.thrown (.failed e)

theorem andThen (law : Law P) {act : EStateM Halt s α} {f : α → EStateM Halt s β}
    (h : Obeys P act) (hf : ∀ a, Obeys P (f a)) : Obeys P (act >>= f) := by
  intro st
  refine Ends.andThen (h st) ?_ ?_
  · intro a t st' ht
    exact (hf a st').weaken fun r u st'' hu => law.append ht hu
  · exact fun _ _ _ ht => ht

/-- What is caught was done all the same. -/
theorem caught {act : EStateM Halt s α} (h : Obeys P act) : Obeys P (attempt act) := by
  intro st
  refine Ends.caught ((h st).weaken ?_)
  rintro ((e | _) | a) t st' ht <;> exact ht

theorem tried (law : Law P) {act : EStateM Halt s α} {k : Except Error α → EStateM Halt s β}
    (h : Obeys P act) (hok : ∀ a, Obeys P (k (.ok a))) (herr : ∀ e, Obeys P (k (.error e))) :
    Obeys P (attempt act >>= k) := by
  refine law.andThen (caught h) fun answer => ?_
  cases answer with
  | ok a => exact hok a
  | error e => exact herr e

theorem result (law : Law P) (x : Except Error α) : Obeys P (ofExcept x : EStateM Halt s α) := by
  cases x with
  | ok a => exact law.value a
  | error e => exact law.failed e

theorem given (law : Law P) (x : Except Halt α) : Obeys P (ofResult x : EStateM Halt s α) := by
  cases x with
  | ok a => exact law.value a
  | error h => exact law.thrown h

theorem checked (law : Law P) (x : Option α) : Obeys P (checked x : EStateM Halt s α) := by
  cases x with
  | some a => exact law.value a
  | none => exact law.thrown _

end Law

namespace Obeys

variable {s σ α β : Type} [SerialHost σ] [HasLine s σ] {P Q : s → Trace → s → Prop}

theorem weaken {act : EStateM Halt s α} (h : Obeys P act)
    (hq : ∀ {st t st'}, P st t st' → Q st t st') : Obeys Q act :=
  fun st => (h st).weaken fun _ _ _ hp => hq hp

theorem read {k : s → EStateM Halt s β} (h : ∀ st, Obeys P (k st)) : Obeys P (get >>= k) :=
  fun st => Ends.read (h st st)

/-- Changing the state beside the line. -/
theorem change {g : s → s} (hg : ∀ st, HasLine.line (g st) = HasLine.line st)
    (hp : ∀ st, P st [] (g st)) : Obeys P (modify g) := by
  intro st
  have hleads : (HasLine.line st).Leads [] (HasLine.line (g st)) := by
    rw [hg]
    exact .refl _
  exact ⟨.ok (), [], g st, rfl, hleads, hp st⟩

/-- An action on a part that holds the line. -/
theorem part {p : Type} [HasLine p σ] {get : s → p} {put : p → s → s} {act : EStateM Halt p α}
    {Q : p → Trace → p → Prop} (h : Obeys Q act)
    (hget : ∀ st, HasLine.line (get st) = HasLine.line st)
    (hput : ∀ x st, HasLine.line (put x st) = HasLine.line x)
    (hq : ∀ st t x, (HasLine.line (get st)).Leads t (HasLine.line x) → Q (get st) t x →
      P st t (put x st)) : Obeys P (zoom get put act) := by
  intro st
  obtain ⟨r, t, x, he, hl, hx⟩ := h (get st)
  exact Ends.part (hget st) (hput · st) ⟨r, t, x, he, hl, hq st t x hl hx⟩

end Obeys

end SspUpdate
