import SspUpdate.Proofs.Messages

/-!
# Questions and the keys that end them

Of the keys typed at a question, the first that ends it decides whether it is
answered, given up or broken off; the keys before it at most move the mark of a
menu.
`Asks` says that an action shows a question and what it results in; without a
terminal nothing is shown and nothing is read.
-/

namespace SspUpdate

namespace Key

/-- Ends a menu. -/
def endsMenu : Key → Bool
  | .enter | .space | .escape | .interrupt | .char 'q' => true
  | _ => false

/-- Ends a question of yes or no. -/
def endsConfirm : Key → Bool
  | .enter | .escape | .interrupt | .char 'q' | .char 'y' | .char 'Y' | .char 'n' | .char 'N' => true
  | _ => false

/-- Leaves a question without an answer. -/
def givesUp : Key → Bool
  | .escape | .interrupt | .char 'q' => true
  | _ => false

/-- Says no. -/
def saysNo : Key → Bool
  | .char 'n' | .char 'N' => true
  | _ => false

end Key

/-- The reply follows from the first key that ends the question, where `means` tells which
answers a key can stand for. -/
inductive Reply.Follows {α : Type} (ends : Key → Bool) (means : Key → α → Prop)
    (keys : List Key) : Reply α → Prop
  | waiting (h : keys.find? ends = none) : Follows ends means keys .waiting
  | cancelled {key : Key} (h : keys.find? ends = some key) (hkey : key.givesUp = true) :
    Follows ends means keys .cancelled
  | interrupted (h : keys.find? ends = some .interrupt) : Follows ends means keys .interrupted
  | given {key : Key} {a : α} (h : keys.find? ends = some key) (hkey : key.givesUp = false)
      (ha : means key a) : Follows ends means keys (.given a)

/-- A key that ends nothing changes nothing. -/
theorem Reply.Follows.skip {α : Type} {ends : Key → Bool} {means : Key → α → Prop} {key : Key}
    {keys : List Key} {reply : Reply α} (hkey : ends key = false)
    (h : Reply.Follows ends means keys reply) : Reply.Follows ends means (key :: keys) reply := by
  have hfind : (key :: keys).find? ends = keys.find? ends :=
    List.find?_cons_of_neg (by simp [hkey])
  cases h with
  | waiting h => exact .waiting (hfind.trans h)
  | cancelled h hg => exact .cancelled (hfind.trans h) hg
  | interrupted h => exact .interrupted (hfind.trans h)
  | given h hg ha => exact .given (hfind.trans h) hg ha

namespace Menu

theorem turn_goesOn (m : Menu) (page : Nat) :
    m.turn page = .ignore ∨ ∃ i, m.turn page = .mark i := by
  unfold turn
  split <;> simp

/-- A menu goes on after just the keys that do not end it. -/
theorem effect_kind (m : Menu) (marked : Nat) (key : Key) :
    (key.endsMenu = true ∧ key.givesUp = false ∧ m.effect marked key = .answer marked) ∨
    (key.endsMenu = true ∧ key.givesUp = true ∧ m.effect marked key = .cancel) ∨
    (key = .interrupt ∧ m.effect marked key = .interrupt) ∨
    (key.endsMenu = false ∧
      (m.effect marked key = .ignore ∨ ∃ i, m.effect marked key = .mark i)) := by
  unfold effect
  split
  case h_6 | h_7 | h_8 | h_9 => exact .inr (.inr (.inr ⟨rfl, turn_goesOn _ _⟩))
  case h_1 | h_2 | h_3 | h_4 | h_5 => exact .inr (.inr (.inr ⟨rfl, .inr ⟨_, rfl⟩⟩))
  case h_10 | h_11 => exact .inl ⟨rfl, rfl, rfl⟩
  case h_12 | h_13 => exact .inr (.inl ⟨rfl, rfl, rfl⟩)
  case h_14 => exact .inr (.inr (.inl ⟨rfl, rfl⟩))
  case h_15 c =>
    refine .inr (.inr (.inr ⟨?_, .inl rfl⟩))
    unfold Key.endsMenu
    split <;> simp_all

/-- Which item is chosen depends on the mark; whether one is, on the first key that ends
the menu. -/
theorem ask_follows {m : Menu} {marked : Nat} (keys : List Key) (hm : marked < m.count) :
    Reply.Follows Key.endsMenu (fun _ index => index < m.count) keys (m.ask marked keys).1 := by
  induction keys generalizing marked with
  | nil => exact .waiting rfl
  | cons key keys ih =>
    obtain ⟨hends, hup, he⟩ | ⟨hends, hup, he⟩ | ⟨rfl, he⟩ | ⟨hgoes, he | ⟨i, he⟩⟩ :=
      m.effect_kind marked key
    · simp only [ask, he]
      exact .given (List.find?_cons_of_pos hends) hup hm
    · simp only [ask, he]
      exact .cancelled (List.find?_cons_of_pos hends) hup
    · simp only [ask, he]
      exact .interrupted rfl
    · simp only [ask, he]
      exact .skip hgoes (ih hm)
    · simp only [ask, he]
      exact .skip hgoes (ih (effect_mark_lt (Nat.zero_lt_of_lt hm) he))

end Menu

namespace Confirm

/-- The answer a key stands for; Enter stands for the one that is offered. -/
def Means (default : Bool) (key : Key) (b : Bool) : Prop :=
  b = if key = .enter then default else !key.saysNo

/-- Where yes is offered, only the keys for no mean no. -/
theorem Means.saysNo {key : Key} {b : Bool} (h : Means true key b) : key.saysNo = !b := by
  unfold Means at h
  split at h
  · next henter => rw [h, henter]; rfl
  · rw [h, Bool.not_not]

theorem effect_kind (default : Bool) (key : Key) :
    (key.endsConfirm = true ∧ key.givesUp = false ∧ ∃ b, effect default key = .answer b ∧
      Means default key b) ∨
    (key.endsConfirm = true ∧ key.givesUp = true ∧ effect default key = .cancel) ∨
    (key = .interrupt ∧ effect default key = .interrupt) ∨
    (key.endsConfirm = false ∧ effect default key = .ignore) := by
  unfold effect
  split
  case h_1 | h_2 | h_3 | h_4 | h_5 => exact .inl ⟨rfl, rfl, _, rfl, rfl⟩
  case h_6 | h_7 => exact .inr (.inl ⟨rfl, rfl, rfl⟩)
  case h_8 => exact .inr (.inr (.inl ⟨rfl, rfl⟩))
  case h_9 =>
    refine .inr (.inr (.inr ⟨?_, rfl⟩))
    unfold Key.endsConfirm
    split <;> simp_all

theorem ask_follows (default : Bool) (keys : List Key) :
    Reply.Follows Key.endsConfirm (Means default) keys (ask default keys).1 := by
  induction keys with
  | nil => exact .waiting rfl
  | cons key keys ih =>
    obtain ⟨hends, hup, b, he, hb⟩ | ⟨hends, hup, he⟩ | ⟨rfl, he⟩ | ⟨hgoes, he⟩ :=
      effect_kind default key
    · simp only [ask, he]
      exact .given (List.find?_cons_of_pos hends) hup hb
    · simp only [ask, he]
      exact .cancelled (List.find?_cons_of_pos hends) hup
    · simp only [ask, he]
      exact .interrupted rfl
    · simp only [ask, he]
      exact .skip hgoes ih

end Confirm

/-- The failure of an action that would have to ask. -/
def Station.noTerminal : Failure :=
  .usage "port selection needs an interactive terminal; pass --port"

/-- The failure of a question that no key ends. -/
def Station.noKey : Failure := .usage "prompt failed: no input"

/-- The failure of a question that was interrupted. -/
def Station.brokenOff : Failure := .cancelled "port selection cancelled"

/-- What a reply is to the action that asked. -/
def Reply.outcome {α : Type} : Reply α → Except Failure (Option α)
  | .given a => .ok (some a)
  | .cancelled => .ok none
  | .interrupted => .error Station.brokenOff
  | .waiting => .error Station.noKey

namespace Station

variable {δ α β : Type} {s s' s'' : Station δ} {t : Terminal}

/-- Nothing is taken back that was written, and the terminal is still there. -/
def Onward (s s' : Station δ) : Prop :=
  (∃ said, s'.output = said ++ s.output) ∧ s'.terminal.isSome = s.terminal.isSome

theorem Onward.trans (h : Onward s s') (h' : Onward s' s'') : Onward s s'' := by
  obtain ⟨⟨said, hout⟩, hterm⟩ := h
  obtain ⟨⟨more, hout'⟩, hterm'⟩ := h'
  exact ⟨⟨more ++ said, by rw [hout', hout, List.append_assoc]⟩, hterm'.trans hterm⟩

theorem Wrote.onward {serial : Serial.Attached δ} (h : Wrote s serial s') : Onward s s' := by
  obtain ⟨said, rfl, -⟩ := h
  exact ⟨⟨said, rfl⟩, rfl⟩

/-- A question was shown on the way from `s` to `s'`. -/
def Asked (s s' : Station δ) : Prop :=
  ∃ said, s'.output = said ++ s.output ∧ ∃ o ∈ said, o.IsPrompt

theorem Asked.onward (h : Asked s s') (h' : Onward s' s'') : Asked s s'' := by
  obtain ⟨said, hout, o, ho, hprompt⟩ := h
  obtain ⟨⟨more, hout'⟩, -⟩ := h'
  refine ⟨more ++ said, by rw [hout', hout, List.append_assoc], o, ?_, hprompt⟩
  exact List.mem_append_right _ ho

theorem Onward.asked (h : Onward s s') (h' : Asked s' s'') : Asked s s'' := by
  obtain ⟨⟨said, hout⟩, -⟩ := h
  obtain ⟨more, hout', o, ho, hprompt⟩ := h'
  refine ⟨more ++ said, by rw [hout', hout, List.append_assoc], o, ?_, hprompt⟩
  exact List.mem_append_left _ ho

theorem Wrote.not_asked {serial : Serial.Attached δ} (h : Wrote s serial s') : ¬ Asked s s' := by
  rintro ⟨said, hout, o, ho, hprompt⟩
  obtain ⟨messages, rfl, hmessages⟩ := h
  rw [List.append_cancel_right hout] at hmessages
  exact hmessages o ho hprompt

/-- The action has the result, whatever it shows. -/
def Shows (act : StationM δ α) (s : Station δ) (r : Except Failure α) : Prop :=
  ∃ s', act s = finished s' r ∧ Onward s s'

/-- The action has the result, and asks on the terminal. -/
def Asks (act : StationM δ α) (s : Station δ) (r : Except Failure α) : Prop :=
  ∃ s', act s = finished s' r ∧ Asked s s' ∧ s'.terminal.isSome

section Rules

variable {act : StationM δ α} {k : α → StationM δ β} {a : α} {r : Except Failure β}
  {serial : Serial.Attached δ}

theorem Gives.shows {r : Except Failure α} (h : Gives act s r serial) : Shows act s r := by
  obtain ⟨s', he, hw⟩ := h
  exact ⟨s', he, hw.onward⟩

theorem Shows.andThen (h : Shows act s (.ok a)) (hk : ∀ s', Shows (k a) s' r) :
    Shows (act >>= k) s r := by
  obtain ⟨s₁, he, ho⟩ := h
  obtain ⟨s₂, he', ho'⟩ := hk s₁
  exact ⟨s₂, (bind_ok he k).trans he', ho.trans ho'⟩

theorem Shows.failed {f : Failure} (h : Shows act s (.error f)) (k : α → StationM δ β) :
    Shows (act >>= k) s (.error f) := by
  obtain ⟨s₁, he, ho⟩ := h
  exact ⟨s₁, bind_error he k, ho⟩

/-- A question behind messages. -/
theorem Asks.after (h : Gives act s (.ok a) serial)
    (hk : ∀ s', Wrote s serial s' → Asks (k a) s' r) : Asks (act >>= k) s r := by
  obtain ⟨s₁, he, hw⟩ := h
  obtain ⟨s₂, he', ha, hterm⟩ := hk s₁ hw
  exact ⟨s₂, (bind_ok he k).trans he', hw.onward.asked ha, hterm⟩

/-- What follows on a question leaves the question asked. -/
theorem Asks.goesOn (h : Asks act s (.ok a)) (k : α → StationM δ β) :
    ∃ s', ∀ r, Shows (k a) s' r → Asks (act >>= k) s r := by
  obtain ⟨s₁, he, ha, hterm⟩ := h
  refine ⟨s₁, fun r ⟨s₂, he', ho⟩ => ?_⟩
  exact ⟨s₂, (bind_ok he k).trans he', ha.onward ho, ho.2.trans hterm⟩

theorem Asks.andThen (h : Asks act s (.ok a)) (hk : ∀ s', Shows (k a) s' r) :
    Asks (act >>= k) s r := by
  obtain ⟨s₁, hgo⟩ := h.goesOn k
  exact hgo r (hk s₁)

/-- A question in front of what has a result that depends on the station. -/
theorem Asks.before (h : Asks act s (.ok a)) (hk : ∀ s', ∃ r, Shows (k a) s' r) :
    ∃ r, Asks (act >>= k) s r := by
  obtain ⟨s₁, hgo⟩ := h.goesOn k
  exact (hk s₁).imp hgo

theorem Asks.failed {f : Failure} (h : Asks act s (.error f)) (k : α → StationM δ β) :
    Asks (act >>= k) s (.error f) := by
  obtain ⟨s₁, he, hrest⟩ := h
  exact ⟨s₁, bind_error he k, hrest⟩

end Rules

theorem emit_shows (o : Output) (s : Station δ) : Shows (emit o) s (.ok ()) :=
  ⟨_, rfl, ⟨[o], rfl⟩, rfl⟩

theorem emit_asks (hs : s.terminal.isSome) (text : String) :
    Asks (emit (.shown text)) s (.ok ()) :=
  ⟨_, rfl, ⟨[.shown text], rfl, _, List.mem_singleton_self _, trivial⟩, hs⟩

theorem forM_shows {act : α → StationM δ Unit} (h : ∀ a s, Shows (act a) s (.ok ()))
    (items : List α) (s : Station δ) : Shows (items.forM act) s (.ok ()) := by
  induction items generalizing s with
  | nil => exact (Gives.value () s).shows
  | cons a items ih => exact (h a s).andThen fun s' => ih s'

theorem keepKeys_shows (keys : List Key) (s : Station δ) : Shows (keepKeys keys) s (.ok ()) :=
  ⟨_, rfl, ⟨[], rfl⟩, by simp⟩

/-- The end of a question: what is done with its reply. -/
theorem settle_shows {k : Option α → StationM δ β} {answer : Option α → β}
    (hk : ∀ o s, Shows (k o) s (.ok (answer o))) (reply : Reply α) (s : Station δ) :
    Shows (settle reply >>= k) s (reply.outcome.map answer) := by
  cases reply with
  | given a => exact (Gives.value (some a) s).shows.andThen (hk (some a))
  | cancelled => exact (Gives.value none s).shows.andThen (hk none)
  | interrupted =>
    have hstop : Shows interrupt s (.ok ()) := ⟨_, rfl, ⟨[], rfl⟩, rfl⟩
    have hraise (s' : Station δ) :
        Shows (raise brokenOff : StationM δ (Option α)) s' (.error brokenOff) :=
      (Gives.raised brokenOff s').shows
    exact (hstop.andThen hraise).failed k
  | waiting =>
    have hraise (s' : Station δ) : Shows (raise noKey : StationM δ (Option α)) s' (.error noKey) :=
      (Gives.raised noKey s').shows
    exact ((emit_shows .awaited s).andThen hraise).failed k

theorem requireTerminal_gives (ht : s.terminal = some t) :
    Gives requireTerminal s (.ok t) s.serial := by
  refine Gives.read ?_
  rw [ht]
  exact .value t s

/-- Without a terminal nothing is asked. -/
theorem gives_noTerminal (ht : s.terminal = none) (k : Terminal → StationM δ α) :
    Gives (requireTerminal >>= k) s (.error noTerminal) s.serial := by
  have hrequire : Gives (requireTerminal : StationM δ Terminal) s (.error noTerminal) s.serial := by
    refine Gives.read ?_
    rw [ht]
    exact .raised _ s
  exact hrequire.failed k

theorem choose_asks (ht : s.terminal = some t) (title : String) (items : List String) :
    Asks (choose title items) s ((Menu.on t title items).ask 0 t.keys).1.outcome := by
  refine .after (requireTerminal_gives ht) fun s₁ hw => ?_
  have hterm : s₁.terminal.isSome := by rw [hw.terminal_eq, ht]; rfl
  dsimp only
  obtain ⟨reply, keys, marks⟩ := (Menu.on t title items).ask 0 t.keys
  have hmarks : Asks ((0 :: marks).forM fun mark =>
      emit (.shown ((Menu.on t title items).render mark))) s₁ (.ok ()) :=
    (emit_asks hterm _).andThen fun s₂ => forM_shows (fun _ => emit_shows _) marks s₂
  refine hmarks.andThen fun s₂ => ?_
  refine (keepKeys_shows keys s₂).andThen fun s₃ => ?_
  change Shows _ s₃ (id reply.outcome)
  rw [← Except.map_id]
  refine settle_shows (fun answer s₄ => ?_) reply s₃
  cases answer with
  | none => exact (Gives.value none s₄).shows
  | some index => exact (emit_shows _ s₄).andThen fun s₅ => (Gives.value _ s₅).shows

theorem confirm_asks (ht : s.terminal = some t) (question : String) (default : Bool) :
    Asks (confirm question default) s
      ((Confirm.ask default t.keys).1.outcome.map (·.getD false)) := by
  refine .after (requireTerminal_gives ht) fun s₁ hw => ?_
  have hterm : s₁.terminal.isSome := by rw [hw.terminal_eq, ht]; rfl
  obtain ⟨reply, keys⟩ := Confirm.ask default t.keys
  refine (emit_asks hterm _).andThen fun s₂ => (keepKeys_shows keys s₂).andThen fun s₃ => ?_
  refine settle_shows (fun answer s₄ => ?_) reply s₃
  cases answer with
  | none => exact (Gives.value _ s₄).shows
  | some b => exact (emit_shows _ s₄).andThen fun s₅ => (Gives.value _ s₅).shows

end Station

end SspUpdate
